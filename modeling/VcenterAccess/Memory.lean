import VcenterAccess.Assignment
import VcenterAccess.Connection.Basic
import VcenterAccess.Credential.Cache

/-!
# Memory

What changes about connections and sources of credentials is kept under their
numbers.  A number that was not handed out yet holds what a new connection without
credentials would hold.
-/

namespace VcenterAccess

/-- What is kept, by number. -/
structure Memory where
  /-- The state of each connection. -/
  connection : Nat → ConnectionState := fun _ => default
  /-- The cache of each source of credentials. -/
  cache : Nat → SecretCache := fun _ => {}

namespace Memory

/-- The client of a connection. -/
def client (m : Memory) (number : Nat) : Option Client := (m.connection number).client

/-- What the next login of a connection uses. -/
def login (m : Memory) (number : Nat) : LoginState := (m.connection number).login

/-- Replace the client of a connection. -/
def setClient (m : Memory) (number : Nat) (client : Option Client) : Memory :=
  { m with connection := assign m.connection number { m.connection number with client } }

/-- Replace what the next login of a connection uses. -/
def setLogin (m : Memory) (number : Nat) (login : LoginState) : Memory :=
  { m with connection := assign m.connection number { m.connection number with login } }

/-- Replace the cache of a source. -/
def setCache (m : Memory) (number : Nat) (cache : SecretCache) : Memory :=
  { m with cache := assign m.cache number cache }

/-- Start a connection with its credentials, and without a client. -/
def start (m : Memory) (number : Nat) (credentials : SessionCredentials) : Memory :=
  { m with connection := assign m.connection number { login := { credentials } } }

/-- Start connections with the numbers from zero on. -/
def ofCredentials (all : List SessionCredentials) : Memory :=
  all.zipIdx.foldl (fun m entry => m.start entry.2 entry.1) {}

/-! ## What a change leaves -/

section

variable (m : Memory) (n : Nat) (client : Option Client) (login : LoginState)
  (cache : SecretCache)

@[simp] theorem client_setClient : (m.setClient n client).client n = client := by
  simp [Memory.client, setClient]

@[simp] theorem client_setClient_other {n k : Nat} (h : k ≠ n) :
    (m.setClient n client).client k = m.client k := by
  simp [Memory.client, setClient, h]

@[simp] theorem login_setClient (k : Nat) : (m.setClient n client).login k = m.login k := by
  by_cases h : k = n
  · subst h
    simp [Memory.login, setClient]
  · simp [Memory.login, setClient, h]

@[simp] theorem login_setLogin : (m.setLogin n login).login n = login := by
  simp [Memory.login, setLogin]

@[simp] theorem login_setLogin_other {n k : Nat} (h : k ≠ n) :
    (m.setLogin n login).login k = m.login k := by
  simp [Memory.login, setLogin, h]

@[simp] theorem client_setLogin (k : Nat) : (m.setLogin n login).client k = m.client k := by
  by_cases h : k = n
  · subst h
    simp [Memory.client, setLogin]
  · simp [Memory.client, setLogin, h]

@[simp] theorem cache_setCache : (m.setCache n cache).cache n = cache := by
  simp [setCache]

@[simp] theorem connection_setCache : (m.setCache n cache).connection = m.connection := rfl

theorem client_start (credentials : SessionCredentials) (k : Nat) :
    (m.start n credentials).client k = if k = n then none else m.client k := by
  by_cases h : k = n <;> simp [Memory.client, start, assign, h]

end

end Memory

end VcenterAccess
