import VcenterAccess.Connection.Options
import VcenterAccess.Url.Parse

/-!
# Endpoints

The URL under which a vCenter answers.  A login does not depend on how it is parsed, so it is
only opened through `sdkUrl_eq_parse`.
-/

namespace VcenterAccess.ConnectionOptions

/-- The URL of the interface of a vCenter, as far as its host allows one. -/
def sdkUrl (o : ConnectionOptions) : Except UrlError Url :=
  Url.parse ("https://" ++ o.hostPort ++ "/sdk")

theorem sdkUrl_eq_parse (o : ConnectionOptions) :
    o.sdkUrl = Url.parse ("https://" ++ o.hostPort ++ "/sdk") :=
  rfl

attribute [irreducible] sdkUrl

end VcenterAccess.ConnectionOptions
