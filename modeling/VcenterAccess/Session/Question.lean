import VcenterAccess.Connection.Options
import VcenterAccess.KeyPair
import VcenterAccess.Secret.Basic
import VcenterAccess.Session.Client
import VcenterAccess.SharedToken.Request

/-!
# Questions to the outside

Everything that a connection needs from outside is a question: the calls to its
vCenter, a shared token of a session manager, the Secret that is listed now.
Each question has a type of answers, so what is done with an answer never depends
on who gives it.
-/

namespace VcenterAccess

/-- Who hands out shared tokens. -/
inductive TokenSource where
  /-- A session manager that is reached over the network. -/
  | sessionManager
  /-- Somebody close by. -/
  | local
deriving DecidableEq, Repr

/-- What is asked of the outside. -/
inductive Question where
  /-- A new client of a vCenter, not logged in. -/
  | newClient (url : Url) (trustAnchor : TrustAnchor) (agent : String)
  /-- To log a client in with user and password. -/
  | login (client : Client) (username password : String)
  /-- A signer for a certificate. -/
  | issueToken (client : Client) (keyPair : KeyPair)
  /-- To log a client in with a signer. -/
  | loginByToken (client : Client) (signer : Signer)
  /-- To let a client take over the session of a token. -/
  | cloneSession (client : Client) (token : String)
  | userSession (client : Client)
  /-- To end the session of a client. -/
  | logout (client : Client)
  /-- The client that sends requests again. -/
  | withRetry (client : Client) (budget : RetryBudget)
  | sharedToken (source : TokenSource) (options : SharedTokenOptions)
  /-- The Secret that a store lists. -/
  | listedSecret (store : Nat) (reference : SecretReference)
deriving Repr

namespace Question

/-- What answers a question. -/
@[reducible] def Answer : Question → Type
  | newClient .. => Except Fault Client
  | login .. => Except Fault Unit
  | issueToken .. => Except Fault Signer
  | loginByToken .. => Except Fault Unit
  | cloneSession .. => Except Fault Unit
  | userSession .. => Except Fault (Option UserSession)
  | logout .. => Except Fault Unit
  | withRetry .. => Client
  | sharedToken .. => Except SharedTokenError String
  | listedSecret .. => Option Secret

/-- Whether the answer may take its time. -/
def isAwaited : Question → Bool
  | withRetry .. => false
  | listedSecret .. => false
  | _ => true

end Question

end VcenterAccess
