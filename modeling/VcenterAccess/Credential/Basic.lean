import VcenterAccess.Table
import VcenterAccess.Text.Inspection

/-!
# Credentials

What a Secret holds for one vCenter: a user with a password, the URL of a
session manager with a token, or both.
-/

namespace VcenterAccess

open Text

/-- The credentials of one vCenter.  A field that is not set is empty. -/
structure Credential where
  /-- The user name, or a certificate in PEM form. -/
  user : String := ""
  /-- The password, or the private key of the certificate.  Never shown. -/
  password : String := ""
  /-- Where the session manager is reached. -/
  sessionManagerUrl : String := ""
  /-- What authenticates at the session manager.  Never shown. -/
  sessionManagerToken : String := ""
deriving DecidableEq, Inhabited, Repr

/-- The credentials of a set of vCenters, by server. -/
abbrev CredentialTable := Table Credential

namespace Credential

/-- Whether the session is handed out by a session manager. -/
def usesSessionManager (c : Credential) : Bool := !c.sessionManagerUrl.isEmpty

/-- The credential without its secret fields. -/
def inspect (c : Credential) : String :=
  inspectRecord "Credential"
    [("user", quote c.user), ("vc_session_manager_url", quote c.sessionManagerUrl)]

/-- Some part of a login is set. -/
def hasLogin (c : Credential) : Bool := !c.user.isEmpty || !c.password.isEmpty

/-- Some part of a session manager is set. -/
def hasSessionManager (c : Credential) : Bool :=
  !c.sessionManagerUrl.isEmpty || !c.sessionManagerToken.isEmpty

/-- A credential is complete if it sets something, and each of its two pairs
is set as a whole or not at all. -/
def isComplete (c : Credential) : Bool :=
  (c.hasLogin || c.hasSessionManager)
    && (!c.hasLogin || (!c.user.isEmpty && !c.password.isEmpty))
    && (!c.hasSessionManager || (!c.sessionManagerUrl.isEmpty && !c.sessionManagerToken.isEmpty))

end Credential

end VcenterAccess
