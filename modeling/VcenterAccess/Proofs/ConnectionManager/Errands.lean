import VcenterAccess.ConnectionManager.Command
import VcenterAccess.Proofs.Connection.Attempt
import VcenterAccess.Proofs.ConnectionManager.Calls
import VcenterAccess.Proofs.Machine.Progress

/-!
# Errands of all kinds

Many connection managers, connections and sources of credentials can be at work in one
machine, and share locks in any way.  Whoever wants something of one of them runs an errand.

Every errand takes its locks in the order of their ranks: a connect takes the lock of its
credentials while it has its connect lock, and everything else takes one lock at a time.  So
errands never wait for each other forever (`Errand.deadlockFree`).
-/

namespace VcenterAccess

open Program

/-- What somebody can want. -/
inductive Errand where
  | manage (manager : ConnectionManager) (command : ConnectionManager.Command)
  | use (connection : Connection) (command : Connection.Command)
  /-- The credential of a server. -/
  | lookUp (source : SecretSource) (server : String)
  /-- All credentials. -/
  | list (source : SecretSource)

/-- What comes of it. -/
inductive Errand.Result where
  | managed (reply : ConnectionManager.Reply)
  | used (reply : Connection.Reply)
  | found (answer : Except LookupError Credential)
  | listed (answer : Except LookupError CredentialTable)

/-- What is done for an errand. -/
def Errand.program : Errand → Program Errand.Result
  | manage manager command => do return .managed (← manager.execute command)
  | use connection command => do return .used (← connection.execute command)
  | lookUp source server => do return .found (← source.getCredential server)
  | list source => do return .listed (← source.credentials)

/-! ## The order of locks -/

/-- A lock is taken while none is held, and given back at the end. -/
theorem Program.ascends_locked {α : Type} {lock : Lock} {p : Program α}
    (hp : p.Obeys .ascending (fun held _ => held = [lock]) [lock]) : (locked lock p).Ascends := by
  refine .locked (fun _ hother => nomatch hother) hp ?_
  rintro _ _ rfl
  exact ⟨List.mem_cons_self .., List.erase_cons_head ..⟩

namespace Connection

variable (c : Connection)

/-- Under the connect lock a connection only takes the lock of its credentials, and not twice. -/
theorem ascends_ensureSession :
    c.ensureSession.Obeys .ascending (fun held _ => held = [.connect c.connectLock])
      [.connect c.connectLock] := by
  have hbracketed : c.ensureSession.Obeys .bracketing
      (fun held _ => held = [.connect c.connectLock]) [.connect c.connectLock] := by
    refine .mono heldAfter (fun h x => (heldAfter_concat h x).symm) ?_ ?_ obeys_ensureSession rfl
    · intro h operation hallows
      rw [← held_lockingAfter c.connectLock]
      exact bracketing_of_twoPhase hallows.1
    · intro h outcome hensured
      rw [← held_lockingAfter c.connectLock]
      exact hensured.1
  refine uses_ensureSession.strengthen
    (fun held => ∀ lock ∈ held, lock = .connect c.connectLock ∨ lock = .credentials c.number)
    hbracketed (by simp) rfl fun held operation hheld huses hallows => ?_
  cases operation with
  | acquire lock =>
      obtain rfl : lock = .credentials c.number := huses
      refine ⟨fun other hother => ?_, fun _ => List.forall_mem_cons.mpr ⟨.inr rfl, hheld⟩⟩
      rcases hheld other hother with rfl | rfl
      · exact Nat.zero_lt_one
      · exact absurd hother hallows
  | release lock => exact ⟨hallows, fun _ other hother => hheld other (List.mem_of_mem_erase hother)⟩
  | _ => exact ⟨trivial, fun _ => hheld⟩

theorem ascends_connect : c.connect.Ascends := ascends_locked c.ascends_ensureSession

theorem ascends_logout : c.logout.Ascends := by
  refine ascends_locked (.operate trivial fun client => ?_)
  cases client with
  | none => rfl
  | some client => exact .operate trivial fun _ => .operate trivial fun _ => rfl

theorem ascends_updateCredentials (credentials : SessionCredentials) :
    (c.updateCredentials credentials).Ascends :=
  ascends_locked (.operate trivial fun _ => ⟨trivial, fun _ => rfl⟩)

theorem ascends_execute (command : Command) : (c.execute command).Ascends := by
  cases command with
  | connect => exact .bind c.ascends_connect fun _ _ => id
  | logout => exact .bind c.ascends_logout fun _ _ => id
  | update credentials => exact .bind (c.ascends_updateCredentials credentials) fun _ _ => id
  | options => rfl
  | inspect => exact .operate trivial fun _ => rfl

end Connection

theorem SecretSource.ascends_serve (source : SecretSource) {α : Type}
    (read : SecretCache → Except LookupError α) : (source.serve read).Ascends := by
  refine ascends_locked (.operate trivial fun listed => .operate trivial fun old => ?_)
  split
  · rfl
  · exact .operate trivial fun _ => rfl

namespace ConnectionManager

variable (m : ConnectionManager)

theorem ascends_connect (server : String) : (m.connect server).Ascends := by
  refine obeys_connect fun v _ => ?_
  have hconforms : v.Conforms server .ascending [] fun held _ => held = [] := by
    refine ⟨v.connection.ascends_connect, fun source _ => source.ascends_serve _,
      fun _ _ => id, ?_⟩
    rintro _ credential rfl
    exact v.connection.ascends_updateCredentials _
  exact hconforms.obeys

theorem ascends_execute (command : Command) : (m.execute command).Ascends := by
  cases command with
  | connect server =>
      refine .bind (m.ascends_connect server) ?_
      rintro _ outcome rfl
      cases outcome with
      | error e => rfl
      | ok c => exact .operate trivial fun _ => rfl
  | logoutAll => exact .bind (obeys_logoutEach fun c _ => c.ascends_logout) fun _ _ => id
  | servers => rfl
  | connection server command =>
      rw [execute]
      cases m.connection? server with
      | none => rfl
      | some c => exact .bind (c.ascends_execute command) fun _ _ => id

end ConnectionManager

namespace Errand

/-- Every errand takes its locks in the order of their ranks. -/
theorem ascends_program (errand : Errand) : errand.program.Ascends := by
  cases errand with
  | manage manager command => exact .bind (manager.ascends_execute command) fun _ _ => id
  | use connection command => exact .bind (connection.ascends_execute command) fun _ _ => id
  | lookUp source server => exact .bind (source.ascends_serve _) fun _ _ => id
  | list source => exact .bind (source.ascends_serve _) fun _ _ => id

/-- However errands are interleaved, and wherever they are abandoned, they never wait for
each other forever. -/
theorem deadlockFree {ω : Type} (o : Outside ω) (memory : Memory) (outside : ω)
    (schedule : List (Move ω Result))
    (herrands : ∀ p ∈ begunBy schedule, ∃ errand : Errand, p = errand.program) :
    ((Machine.idle memory outside).run o schedule).DeadlockFree o := by
  refine Machine.deadlockFree_run memory outside fun p hp => ?_
  obtain ⟨errand, rfl⟩ := herrands p hp
  exact errand.ascends_program

/-- An outside that keeps everybody waiting, and turns everything down when it is told to. -/
def reluctant : Outside Bool where
  ask _ _ s := (none, s)
  collect _ question s :=
    (if s then
      some (match question with
        | .newClient .. => .error .temporary
        | .login .. => .error .temporary
        | .issueToken .. => .error .temporary
        | .loginByToken .. => .error .temporary
        | .cloneSession .. => .error .temporary
        | .userSession _ => .error .temporary
        | .logout _ => .error .temporary
        | .withRetry client _ => client
        | .sharedToken .. => .error .emptyUrl
        | .listedSecret .. => none)
    else none, s)
  cancel _ s := ([], s)

theorem answering_reluctant : reluctant.Answering :=
  fun _ _ _ => ⟨fun _ => true, _, rfl⟩

/-- One of many connections to one vCenter. -/
def neighbour (number : Nat) : Connection where
  number
  options := { hostname := "vcenter" }

/-- A connect that asks for a client, and a logout that waits for the connect lock. -/
def overtaking : List (Move Bool Result) :=
  [.begin (use (neighbour 0) .connect).program, .begin (use (neighbour 1) .logout).program,
    .step 0, .step 1]

/-- The first call obstructs the second one, but both can finish. -/
theorem deadlockFree_overtaking :
    let m := (Machine.idle {} false).run reluctant overtaking
    m.Obstructs 0 1 ∧ reluctant.Answering ∧ m.DeadlockFree reluctant := by
  refine ⟨⟨by decide, _, List.mem_cons_of_mem _ (List.mem_cons_self ..), rfl, .connect 0, _, rfl,
    rfl⟩, answering_reluctant, deadlockFree _ _ _ _ fun p hp => ?_⟩
  have hcases : p = (use (neighbour 0) .connect).program ∨
      p = (use (neighbour 1) .logout).program := by
    simpa [begunBy, overtaking, Move.program?] using hp
  rcases hcases with rfl | rfl
  · exact ⟨_, rfl⟩
  · exact ⟨_, rfl⟩

end Errand

end VcenterAccess
