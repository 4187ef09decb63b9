import VcenterAccess.Connection.Basic

/-!
# Failures to connect

Every step of a login can fail.  A failure is a rejected login if the vCenter
itself turned the credentials down.
-/

namespace VcenterAccess

open Text

/-- Why a connection could not be established. -/
inductive ConnectionError where
  /-- The host makes no URL. -/
  | parseUrl (host : String) (cause : UrlError)
  /-- There is no client for the URL. -/
  | createClient (url : Url) (cause : Fault)
  /-- The session manager hands out no token. -/
  | getSharedToken (url : String) (cause : SharedTokenError)
  /-- The shared session cannot be taken over. -/
  | cloneSession (cause : Fault)
  /-- Certificate and private key cannot be loaded. -/
  | loadKeyPair (cause : KeyPairError)
  /-- There is no signer for the certificate. -/
  | issueToken (cause : Fault)
  /-- The login with the signer failed. -/
  | loginByToken (cause : Fault)
  /-- The login with user and password failed. -/
  | login (username : String) (cause : Fault)
deriving DecidableEq, Repr

namespace ConnectionError

/-- The message of an error. -/
def message : ConnectionError → String
  | parseUrl host _ => "failed to parse SDK URL for host " ++ quote host
  | createClient url _ => "failed to create client for " ++ url.text
  | getSharedToken url _ => "failed to get shared session token from " ++ quote url
  | cloneSession _ => "failed to clone shared session"
  | loadKeyPair _ => "failed to load certificate key pair"
  | issueToken _ => "failed to issue SAML token"
  | loginByToken _ => "failed to log in with SAML token"
  | login username _ => "failed to log in as " ++ quote username

/-- Whether the vCenter turned the credentials down. -/
def isInvalidLogin : ConnectionError → Bool
  | cloneSession cause => cause.isInvalidLogin
  | issueToken cause => cause.isInvalidLogin
  | loginByToken cause => cause.isInvalidLogin
  | login _ cause => cause.isInvalidLogin
  | parseUrl .. => false
  | createClient .. => false
  | getSharedToken .. => false
  | loadKeyPair _ => false

end ConnectionError

end VcenterAccess
