import VcenterAccess.Key.PrivateKey
import VcenterAccess.Session.Credentials

/-!
# Login strategies

How a fresh client is authenticated follows from the credentials alone.  A
session manager wins over everything else; otherwise a user name in PEM form is
a certificate, with the private key in place of the password.
-/

namespace VcenterAccess

open Text

/-- How a client is authenticated. -/
inductive LoginStrategy where
  /-- It takes over the session that a session manager hands out. -/
  | sharedSession (url token : String)
  /-- A certificate and its private key are exchanged for a token. -/
  | certificate (certificate privateKey : String)
  /-- It logs in with a user name and a password. -/
  | password (username password : String)
deriving DecidableEq, Repr

namespace LoginStrategy

/-- The strategy for some credentials. -/
def select (c : SessionCredentials) : LoginStrategy :=
  if !c.sessionManagerUrl.isEmpty then .sharedSession c.sessionManagerUrl c.sessionManagerToken
  else if isPem c.username then .certificate c.username c.password
  else .password c.username c.password

/-- The name of a strategy. -/
def name : LoginStrategy → String
  | sharedSession _ _ => "shared-session"
  | certificate _ _ => "certificate"
  | password _ _ => "password"

/-- The strategy without its secret fields. -/
def inspect : LoginStrategy → String
  | sharedSession url _ => inspectRecord "SharedSession" [("url", quote url)]
  | certificate _ _ => inspectRecord "Certificate" []
  | password username _ => inspectRecord "Password" [("username", quote username)]

end LoginStrategy

end VcenterAccess
