import VcenterAccess.Credential.Cache

/-!
# The credential manager

A credential manager serves the credentials of one referenced Secret.  Before
every answer it looks at the Secret currently listed and reads it anew if its
revision is not the cached one.  A Secret that is gone, or that cannot be read,
leaves the cache as it is; in the second case the caller learns why.

The listed Secret is an argument of every call, so what a call answers is a
function of it and of the cache.
-/

namespace VcenterAccess

open Text

/-- Why a look-up fails. -/
inductive LookupError where
  /-- The Secret holds nothing for the server. -/
  | notFound (server : String)
  /-- The Secret cannot be read. -/
  | parseSecret (cause : ParseError) (reference : SecretReference)
deriving DecidableEq, Repr

namespace LookupError

/-- The message of an error. -/
def message : LookupError → String
  | notFound server => "credentials not found for server " ++ quote server
  | parseSecret _ reference =>
      "failed to parse credentials from secret " ++ reference.display

/-- Why the Secret could not be read, if that is what failed. -/
def parseError? : LookupError → Option ParseError
  | notFound _ => none
  | parseSecret cause _ => some cause

end LookupError

/-- Serves the credentials of one Secret. -/
structure CredentialManager where
  reference : SecretReference
  /-- What was last read from it. -/
  cache : SecretCache := {}
deriving DecidableEq, Inhabited

namespace CredentialManager

/-- Bring a cache up to date with the Secret currently listed. -/
def refreshCache (reference : SecretReference) (cache : SecretCache) (listed : Option Secret) :
    Except LookupError SecretCache :=
  match listed with
  | none => .ok cache
  | some secret =>
      if cache.isCurrent secret then .ok cache
      else
        match secret.credentials with
        | .ok table => .ok (cache.replace secret table)
        | .error cause => .error (.parseSecret cause reference)

/-- Refresh, then read from the cache.  A failed refresh changes nothing. -/
def serve {α : Type} (m : CredentialManager) (listed : Option Secret)
    (read : SecretCache → Except LookupError α) : Except LookupError α × CredentialManager :=
  match refreshCache m.reference m.cache listed with
  | .error e => (.error e, m)
  | .ok cache => (read cache, { m with cache })

/-- Look a server up in a cache. -/
def find (server : String) (cache : SecretCache) : Except LookupError Credential :=
  match cache.credential? server with
  | some c => .ok c
  | none => .error (.notFound server)

/-- The credential of a server. -/
def getCredential (m : CredentialManager) (listed : Option Secret) (server : String) :
    Except LookupError Credential × CredentialManager :=
  m.serve listed (find server)

/-- All credentials. -/
def credentials (m : CredentialManager) (listed : Option Secret) :
    Except LookupError CredentialTable × CredentialManager :=
  m.serve listed fun cache => .ok cache.credentials

/-- The manager with its raw cache; `lister` is how its source of Secrets is shown. -/
def inspect (lister : String) (m : CredentialManager) : String :=
  inspectRecord "CredentialManager"
    [("secret_ref", m.reference.inspect), ("lister", lister),
      ("cache", inspectRecord "Mutex" [("data", m.cache.inspect)])]

end CredentialManager

end VcenterAccess
