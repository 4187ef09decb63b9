import VcenterAccess.Secret.Basic

/-!
# The cache of parsed credentials

The cache keeps the last Secret that could be read, together with the
credentials read from it.
-/

namespace VcenterAccess

open Text

/-- A Secret with the credentials read from it. -/
structure SecretCache where
  /-- The Secret the credentials come from. -/
  secret : Option Secret := none
  credentials : CredentialTable := ∅
deriving DecidableEq, Inhabited

namespace SecretCache

/-- The credential of a server. -/
def credential? (cache : SecretCache) (server : String) : Option Credential :=
  cache.credentials.get? server

/-- Whether a Secret is the cached revision of the cached object.  A Secret
without a revision never is. -/
def isCurrent (cache : SecretCache) (s : Secret) : Bool :=
  match cache.secret with
  | none => false
  | some cached =>
      cached.uid == s.uid && cached.revision.isSome && cached.revision == s.revision

/-- Keep another Secret and its credentials. -/
def replace (_ : SecretCache) (s : Secret) (table : CredentialTable) : SecretCache :=
  ⟨some s, table⟩

/-- The cache, with the raw Secret and the credentials. -/
def inspect (cache : SecretCache) : String :=
  inspectRecord "SecretCache"
    [("secret", inspectOption Secret.inspect cache.secret),
      ("virtual_centers", inspectMap Credential.inspect cache.credentials.toList)]

end SecretCache

end VcenterAccess
