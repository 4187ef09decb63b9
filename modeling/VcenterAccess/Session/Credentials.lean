import VcenterAccess.Credential.Basic

/-!
# Session credentials

What a connection logs in with.
-/

namespace VcenterAccess

open Text

/-- The credentials of a session.  A field that is not set is empty. -/
structure SessionCredentials where
  /-- The user name, or a certificate in PEM form. -/
  username : String := ""
  /-- The password, or the private key of the certificate.  Never shown. -/
  password : String := ""
  /-- Where the session manager is reached. -/
  sessionManagerUrl : String := ""
  /-- What authenticates at the session manager.  Never shown. -/
  sessionManagerToken : String := ""
deriving DecidableEq, Inhabited, Repr

namespace SessionCredentials

/-- The session credentials of a vCenter's credential. -/
def ofCredential (c : Credential) : SessionCredentials :=
  ⟨c.user, c.password, c.sessionManagerUrl, c.sessionManagerToken⟩

/-- The credentials without their secret fields. -/
def inspect (c : SessionCredentials) : String :=
  inspectRecord "SessionCredentials"
    [("username", quote c.username), ("session_manager_url", quote c.sessionManagerUrl)]

end SessionCredentials

end VcenterAccess
