import VcenterAccess.Retry

/-!
# Clients

What a vCenter hands out: clients, the sessions they are logged in with, and
signers for logins by token.
-/

namespace VcenterAccess

/-- A client of a vCenter.  A client never changes; one that sends requests again
is another client with the same number. -/
structure Client where
  /-- The number that its vCenter knows it by. -/
  number : Nat
  /-- How often it sends a request again, once that is set. -/
  retries : Option RetryBudget := none
deriving DecidableEq, Inhabited, Repr

/-- A session of a client. -/
structure UserSession where
  /-- Who is logged in. -/
  user : String
deriving DecidableEq, Repr

/-- What a vCenter issues for a certificate; a client logs in with it. -/
structure Signer where
  /-- Whose certificate it is. -/
  subject : String
deriving DecidableEq, Repr

/-- How clients name themselves to a vCenter. -/
def userAgent : String := "k8s-cloud-provider-vsphere"

end VcenterAccess
