import VcenterAccess.Session.Credentials
import VcenterAccess.Session.Question

/-!
# Connections

A connection is one way to one vCenter.  What never changes about it is a value
of its own; its client and its credentials are kept by its number.
-/

namespace VcenterAccess

open Text

/-- A connection to a vCenter. -/
structure Connection where
  number : Nat
  /-- How the vCenter is reached. -/
  options : ConnectionOptions
  /-- The lock that it shares with other connections while it connects. -/
  connectLock : Nat := 0
  /-- Who hands out its shared tokens. -/
  tokenSource : TokenSource := .sessionManager
deriving DecidableEq, Repr

/-- What the next login uses. -/
structure LoginState where
  credentials : SessionCredentials
  /-- The last shared token whose session was taken over. -/
  sharedToken : Option String := none
deriving DecidableEq, Inhabited, Repr

namespace LoginState

/-- Use other credentials.  A shared token stays as long as it would be asked for
at the same place with the same token. -/
def update (s : LoginState) (credentials : SessionCredentials) : LoginState where
  credentials := credentials
  sharedToken :=
    if s.credentials.sessionManagerUrl = credentials.sessionManagerUrl
        && s.credentials.sessionManagerToken = credentials.sessionManagerToken then
      s.sharedToken
    else none

end LoginState

/-- What changes about a connection. -/
structure ConnectionState where
  /-- The client that is logged in. -/
  client : Option Client := none
  /-- What the next login uses. -/
  login : LoginState
deriving DecidableEq, Inhabited, Repr

namespace Connection

/-- The connection as it is shown to a person. -/
def inspect (c : Connection) (client : Option Client) : String :=
  inspectOpenRecord "VSphereConnection"
    [("options", c.options.inspect), ("connected", inspectBool client.isSome)]

/-- How often its client sends a request again. -/
def retryBudget (c : Connection) : RetryBudget := .ofCount c.options.retries

end Connection

end VcenterAccess
