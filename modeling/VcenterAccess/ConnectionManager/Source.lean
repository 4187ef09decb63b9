import VcenterAccess.Credential.Manager
import VcenterAccess.Program

/-!
# Sources of credentials

A source serves the credentials of one Secret to everybody who shares it.  Its cache
is locked from before the Secret is looked up until the answer is read, so nobody
gets an answer from a cache that changes meanwhile.
-/

namespace VcenterAccess

open Program

/-- Where credentials are looked up. -/
structure SecretSource where
  number : Nat
  reference : SecretReference
  /-- The store that lists the Secret. -/
  store : Nat
deriving DecidableEq, Repr

namespace SecretSource

/-- Bring the cache up to date, and read from it. -/
def serve {α : Type} (s : SecretSource) (read : SecretCache → Except LookupError α) :
    Program (Except LookupError α) :=
  locked (.cache s.number) do
    let listed ← ask (.listedSecret s.store s.reference)
    let old ← operate (.getCache s.number)
    match CredentialManager.refreshCache s.reference old listed with
    | .error e => return .error e
    | .ok cache =>
        operate (.setCache s.number cache)
        return read cache

/-- The credential of a server. -/
def getCredential (s : SecretSource) (server : String) : Program (Except LookupError Credential) :=
  s.serve (CredentialManager.find server)

/-- All credentials. -/
def credentials (s : SecretSource) : Program (Except LookupError CredentialTable) :=
  s.serve fun cache => .ok cache.credentials

end SecretSource

end VcenterAccess
