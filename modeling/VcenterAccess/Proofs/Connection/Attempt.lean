import VcenterAccess.Proofs.Connection.Conduct
import VcenterAccess.Proofs.Program.Alone

/-!
# One attempt to connect

A connect takes its connect lock once, and what it does under it concerns its own client,
its own login and its vCenter only (`Connection.Touches`).  If nobody interferes, the
connection has a client afterwards if and only if the connect succeeded, its credentials
are the same, and after a failure so is all that the next login uses.
-/

namespace VcenterAccess

open Program

/-- Whether an operation takes a lock. -/
def Operation.takes (lock : Lock) : Operation → Bool
  | .acquire lock' => lock' = lock
  | _ => false

namespace Connection

variable {c : Connection}

/-- What a connection touches while it has its connect lock. -/
def Touches (c : Connection) : Operation → Prop
  | .acquire lock => lock = .credentials c.number
  | .release lock => lock = .credentials c.number
  | .getClient n => n = c.number
  | .setClient n _ => n = c.number
  | .getLogin n => n = c.number
  | .setLogin n _ => n = c.number
  | .getCache _ => False
  | .setCache .. => False
  | .ask question => ∀ store reference, question ≠ .listedSecret store reference

/-! ## What is used -/

theorem uses_cloneKept {client : Client} {token : Option String} :
    (cloneKept client token).Uses c.Touches := by
  cases token with
  | none => trivial
  | some token => exact .operate nofun fun answer => by cases answer <;> trivial

theorem uses_cloneFresh {client : Client} {s : LoginState} {url token : String} :
    (c.cloneFresh client s url token).Uses c.Touches := by
  refine .operate nofun fun answer => ?_
  cases answer with
  | error cause => trivial
  | ok fresh =>
      refine .operate nofun fun answer => ?_
      cases answer with
      | error cause => trivial
      | ok _ => exact .operate rfl fun _ => trivial

theorem uses_loginByCertificate {client : Client} {certificate privateKey : String} :
    (loginByCertificate client certificate privateKey).Uses c.Touches := by
  unfold loginByCertificate
  split
  · trivial
  · refine .operate nofun fun answer => ?_
    cases answer with
    | error cause => trivial
    | ok signer => exact .operate nofun fun answer => by cases answer <;> trivial

theorem uses_loginByPassword {client : Client} {username password : String} :
    (loginByPassword client username password).Uses c.Touches :=
  .operate nofun fun answer => by cases answer <;> trivial

theorem uses_logIn {client : Client} {s : LoginState} : (c.logIn client s).Uses c.Touches := by
  unfold logIn
  split
  · refine .bind uses_cloneKept fun accepted => ?_
    cases accepted with
    | true => trivial
    | false => exact uses_cloneFresh
  · exact uses_loginByCertificate
  · exact uses_loginByPassword

theorem uses_newClient : c.newClient.Uses c.Touches := by
  unfold newClient
  split
  · trivial
  · refine .locked rfl ?_ rfl
    refine .operate rfl fun s => .operate nofun fun answer => ?_
    cases answer with
    | error cause => trivial
    | ok client =>
        refine .bind uses_logIn fun outcome => ?_
        cases outcome with
        | error e => trivial
        | ok _ => exact .operate nofun fun _ => trivial

theorem uses_renew : c.renew.Uses c.Touches := by
  refine .bind uses_newClient fun outcome => ?_
  cases outcome with
  | error e => trivial
  | ok client => exact .operate rfl fun _ => trivial

theorem uses_ensureSession : c.ensureSession.Uses c.Touches := by
  refine .operate rfl fun client => ?_
  cases client with
  | none => exact uses_renew
  | some client =>
      refine .operate nofun fun answer => ?_
      match answer with
      | .ok (some session) => trivial
      | .ok none => exact .operate rfl fun _ => uses_renew
      | .error cause => exact .operate rfl fun _ => uses_renew

theorem uses_dropSession : c.dropSession.Uses c.Touches := by
  refine .operate rfl fun client => ?_
  cases client with
  | none => trivial
  | some client => exact .operate rfl fun _ => .operate nofun fun _ => trivial

/-! ## What is left -/

variable {h : List Step} {m m' : Memory} {outcome : Except ConnectionError Unit}

/-- After a connect, there is a client if and only if it succeeded. -/
theorem client_of_path (hpath : c.connect.Path h (.done outcome)) (hruns : m.Runs h m') :
    (m'.client c.number).isSome = true ↔ outcome = .ok () := by
  have hconnected := (obeys_connect.result hpath).2
  rw [connecting, Rule.guarded, Rule.after_ofHistory, List.nil_append] at hconnected
  induction h using List.reverseRecOn with
  | nil => cases hpath
  | append_singleton g x =>
      obtain ⟨operation, answer⟩ := x
      obtain ⟨hx, client, hknown, hclient⟩ := hconnected.last
      obtain rfl : operation = .release (.connect c.connectLock) := hx
      obtain ⟨middle, hbefore, -, hm'⟩ := Memory.runs_concat.mp hruns
      have hread : middle.client c.number = client := Cell.read_of_runs hbefore hknown
      rw [hm', show (middle.after ⟨.release (.connect c.connectLock), answer⟩) = middle from rfl,
        hread]
      exact hclient

/-- The only thing that a connect changes about the login is the token that is kept. -/
theorem credentials_of_allows (hall : c.connecting.Allows [] h) (hruns : m.Runs h m') :
    (m'.login c.number).credentials = (m.login c.number).credentials := by
  induction h using List.reverseRecOn generalizing m' with
  | nil => exact congrArg (fun k : Memory => (k.login c.number).credentials) hruns.symm
  | append_singleton h x ih =>
      obtain ⟨hbefore, hallows⟩ := guarded_concat.mp hall
      obtain ⟨middle, hmiddle, -, rfl⟩ := Memory.runs_concat.mp hruns
      rw [← ih hbefore hmiddle]
      rcases login_after_cases c.number middle x with heq | ⟨login, hx, heq⟩
      · rw [heq]
      · rw [hx] at hallows
        obtain ⟨-, -, s, token, hkeep, rfl⟩ := hallows
        have hread : middle.login c.number = s := Cell.read_of_runs hmiddle hkeep.known
        rw [heq, hread]

/-- A connect leaves the credentials. -/
theorem credentials_of_path (hpath : c.connect.Path h (.done outcome)) (hruns : m.Runs h m') :
    (m'.login c.number).credentials = (m.login c.number).credentials :=
  credentials_of_allows (obeys_connect.along hpath) hruns

theorem login_of_free (hfree : Free Operation.changesLogin h) (hruns : m.Runs h m') (n : Nat) :
    m'.login n = m.login n := by
  induction h generalizing m with
  | nil => rw [show m = m' from hruns]
  | cons x h ih =>
      obtain ⟨hx, hfree⟩ := List.forall_mem_cons.mp hfree
      rw [ih hfree hruns.2]
      rcases login_after_cases n m x with heq | ⟨login, hop, -⟩
      · exact heq
      · rw [hop] at hx
        cases hx

/-- A connect that fails leaves all that the next login uses. -/
theorem login_of_path {e : ConnectionError} (hpath : c.connect.Path h (.done (.error e)))
    (hruns : m.Runs h m') (n : Nat) : m'.login n = m.login n := by
  have hconnected := (obeys_connect.result hpath).2
  rw [connecting, Rule.guarded, Rule.after_ofHistory, List.nil_append] at hconnected
  exact login_of_free hconnected.unchanged hruns n

/-- A connect takes its connect lock, does what touches its own connection, and gives the
lock back. -/
theorem exists_of_connect {ω : Type} (r : Responder ω) (s : Scene ω) :
    ∃ g, (c.connect.alone r s).steps =
        ⟨.acquire (.connect c.connectLock), ()⟩ :: g ++ [⟨.release (.connect c.connectLock), ()⟩] ∧
      ∀ x ∈ g, c.Touches x.operation := by
  refine ⟨_, ?_, uses_ensureSession.along (path_alone (r := r) s c.ensureSession)⟩
  rw [connect, alone_locked]

end Connection

end VcenterAccess
