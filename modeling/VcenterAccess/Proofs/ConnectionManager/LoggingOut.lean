import VcenterAccess.Proofs.ConnectionManager.Caching
import VcenterAccess.Proofs.ConnectionManager.Carrying
import VcenterAccess.Proofs.ConnectionManager.Refreshing

/-!
# Logging out of every vCenter

A vCenter keeps one session for every client that is logged in (`Outside.Tracks`).  If
logouts succeed, every session that is active belongs to a client that is kept by a
connection or in the hands of a call, unless nobody had its client in the first place, or
its client was dropped because a session query failed (`Watched`).

A call that logs out of every vCenter leaves each connection without a client while nobody
has anything in its hands.  Whatever a connection has later was logged in later
(`Carried.exists_opens`).  So the sessions that are left when it returns were opened since
it began, or they are those that no connection knew of (`logoutAll_ends_sessions`).
-/

namespace VcenterAccess

/-! ## What may go wrong -/

/-- The client with a number was dropped because a query for its session failed. -/
def Doubted (events : List Event) (k : Nat) : Prop :=
  ∃ e ∈ events, ∃ client fault,
    e.step = ⟨.ask (.userSession client), .error fault⟩ ∧ client.number = k

theorem Doubted.mono {events later : List Event} {k : Nat} (h : Doubted events k) :
    Doubted (events ++ later) k := by
  obtain ⟨e, he, h⟩ := h
  exact ⟨e, List.mem_append_left _ he, h⟩

namespace Carried

variable {ω α : Type} {o : Outside ω} {active : ω → Nat → Prop} {foreign : Nat → Prop}
  {lock : Nat} {ns : List Nat} {start : Memory} {programs : List (Program α)}
  {trace : List Event} {m : Machine ω α} {t : Task α}

/-- What a task is about to do is allowed. -/
theorem pending (haccount : Machine.Account start programs trace m)
    (hobeys : ∀ p ∈ programs, p.Obeys (.custody lock ns) (fun s _ => s = .away) .away)
    (ht : t ∈ m.tasks) {operation : Operation} {next : operation.Answer → Program α}
    (hp : t.program = .perform operation next) :
    (Rule.custody lock ns).allows (hands t.number trace) operation := by
  obtain ⟨p, hprogram, hpath⟩ := (haccount.task t ht).path
  rw [hp] at hpath
  exact (hobeys p (List.mem_of_getElem? hprogram)).pending hpath

/-- Every session that is active belongs to a client that a connection keeps or a call has
in its hands, unless it is foreign or was doubted. -/
structure Watched (active : ω → Nat → Prop) (foreign : Nat → Prop) (ns : List Nat)
    (trace : List Event) (m : Machine ω α) : Prop where
  kept : ∀ k, active m.shared.outside k → foreign k ∨ Doubted trace k ∨
    m.shared.memory.Stores ns k ∨ ∃ j, (hands j trace).hand? = some k
  dropped : ∀ j n client, hands j trace = .dropping n client →
    active m.shared.outside client.number → Doubted trace client.number
  faithful : ∀ e ∈ trace, e.step.Faithful

namespace Watched

/-- What a step of a task does to sessions, hands and memory. -/
structure Passes (active : ω → Nat → Prop) (lock : Nat) (ns : List Nat) (trace : List Event)
    (before : Shared ω) (e : Event) (after : Shared ω) : Prop where
  leads : Custody.Leads lock ns (hands e.task trace) e.step (hands e.task (trace ++ [e]))
  agrees : (hands e.task trace).Agrees ns before.memory
  memory : after.memory = before.memory.after e.step
  sessions : ∀ k, active after.outside k →
    (active before.outside k ∨ e.step.opens? = some k) ∧ e.step.closes? ≠ some k
  faithful : e.step.Faithful

variable {e : Event} {after : Shared ω} {k : Nat}

/-- A session that goes through the hands of a task or its connections stays there, unless
its client was doubted. -/
theorem kept_carried (h : Watched active foreign ns trace m)
    (hpasses : Passes active lock ns trace m.shared e after) (hafter : active after.outside k)
    (hbefore : active m.shared.outside k)
    (hk : m.shared.memory.Stores ns k ∨ (hands e.task trace).hand? = some k) :
    foreign k ∨ Doubted (trace ++ [e]) k ∨ after.memory.Stores ns k ∨
      ∃ j, (hands j (trace ++ [e])).hand? = some k := by
  rw [hpasses.memory]
  rcases hpasses.leads.kept hpasses.agrees hpasses.faithful hk with
    hstores | hhand | ⟨n, client, hs, rfl⟩ | hcloses
  · exact .inr (.inr (.inl hstores))
  · exact .inr (.inr (.inr ⟨_, hhand⟩))
  · exact .inr (.inl (h.dropped _ n client hs hbefore).mono)
  · exact absurd hcloses (hpasses.sessions k hafter).2

theorem kept_of_passes (h : Watched active foreign ns trace m)
    (hpasses : Passes active lock ns trace m.shared e after) (hafter : active after.outside k) :
    foreign k ∨ Doubted (trace ++ [e]) k ∨ after.memory.Stores ns k ∨
      ∃ j, (hands j (trace ++ [e])).hand? = some k := by
  rcases (hpasses.sessions k hafter).1 with hbefore | hopens
  · rcases h.kept k hbefore with hforeign | hdoubted | hstores | ⟨j, hj⟩
    · exact .inl hforeign
    · exact .inr (.inl hdoubted.mono)
    · exact h.kept_carried hpasses hafter hbefore (.inl hstores)
    · by_cases htj : e.task = j
      · subst htj
        exact h.kept_carried hpasses hafter hbefore (.inr hj)
      · exact .inr (.inr (.inr ⟨j, by rw [hands_concat_other htj]; exact hj⟩))
  · exact .inr (.inr (.inr ⟨_, hpasses.leads.opened hopens⟩))

/-- A client that a task is about to drop was doubted just now or before: nobody else logs in
while the task has the lock. -/
theorem dropped_of_passes (h : Watched active foreign ns trace m) (hcarried : Carried lock ns trace)
    (hpasses : Passes active lock ns trace m.shared e after) {j n : Nat} {client : Client}
    (hj : hands j (trace ++ [e]) = .dropping n client) (hafter : active after.outside client.number) :
    Doubted (trace ++ [e]) client.number := by
  obtain ⟨hopen, hclosed⟩ := hpasses.sessions client.number hafter
  have hleads := hpasses.leads
  by_cases htj : e.task = j
  · subst htj
    rw [hj] at hleads
    obtain ⟨task, step⟩ := e
    generalize hands task trace = s at hleads
    cases hleads with
    | @doubt _ _ answer hnone =>
        match answer with
        | .ok none => exact absurd rfl hclosed
        | .ok (some session) => cases hnone
        | .error fault =>
            exact ⟨_, List.mem_append_right _ (List.mem_singleton_self _), client, fault, rfl, rfl⟩
  · rw [hands_concat_other htj] at hj
    rcases hopen with hbefore | hopens
    · exact (h.dropped j n client hj hbefore).mono
    · have haway := hleads.ne_away (.inl (by rw [hopens]; rfl))
      exact absurd (hcarried.unique haway (by rw [hj]; nofun)) htj

/-- A task goes on. -/
theorem answer (h : Watched active foreign ns trace m) (htracks : o.Tracks active)
    (hcarried : Carried lock ns trace) (haccount : Machine.Account start programs trace m)
    (hobeys : ∀ p ∈ programs, p.Obeys (.custody lock ns) (fun s _ => s = .away) .away)
    {operation : Operation} {next : operation.Answer → Program α} {answer : operation.Answer}
    (ht : m.task? t.number = some t) (hp : t.program = .perform operation next)
    (hans : (operation.perform o t.number t.waits t.held m.shared).answer = some answer)
    (hlogout : ∀ client fault,
      (⟨operation, answer⟩ : Step) ≠ ⟨.ask (.logout client), .error fault⟩) :
    Watched active foreign ns (trace ++ [⟨t.number, operation, answer⟩])
      { m with
        shared := (operation.perform o t.number t.waits t.held m.shared).shared
        tasks := m.replace t.number
          { t with
            program := next answer
            waits := false
            held := (operation.perform o t.number t.waits t.held m.shared).held } } := by
  have hpasses : Passes active lock ns trace m.shared ⟨t.number, operation, answer⟩
      (operation.perform o t.number t.waits t.held m.shared).shared := by
    constructor
    case leads =>
      rw [hands_concat_same]
      exact pending haccount hobeys (Machine.mem_of_task? ht).1 hp answer
    case agrees => exact hcarried.agrees haccount.memory t.number
    case memory => exact (Operation.perform_some hans).2.2
    case sessions => exact fun k => htracks.of_some hans
    case faithful => exact htracks.faithful hans hlogout
  constructor
  case kept => exact fun k => h.kept_of_passes hpasses
  case dropped => exact fun j n client => h.dropped_of_passes hcarried hpasses
  case faithful =>
    intro e he
    rcases List.mem_append.mp he with he | he
    · exact h.faithful e he
    · obtain rfl := List.mem_singleton.mp he
      exact hpasses.faithful

/-- A task is abandoned. -/
theorem abandon (h : Watched active foreign ns trace m) (htracks : o.Tracks active)
    (haccount : Machine.Account start programs trace m)
    (hobeys : ∀ p ∈ programs, p.Obeys (.custody lock ns) (fun s _ => s = .away) .away)
    (ht : m.task? t.number = some t) (hawaits : t.isInterruptible = true)
    (hlogout : ∀ client next, t.program ≠ .perform (.ask (.logout client)) next) :
    Watched active foreign ns (trace ++ (giveBack t.held).map (Event.mk t.number))
      { m with shared := t.abandon o m.shared, tasks := m.others t.number } := by
  obtain ⟨operation, next, hp, hawaited⟩ := exists_of_isInterruptible hawaits
  obtain ⟨hempty, hdropping⟩ := Custody.empty_of_awaited
    (pending haccount hobeys (Machine.mem_of_task? ht).1 hp) hawaited fun client heq => by
      subst heq
      exact hlogout client next hp
  have hactive : ∀ k, active (t.abandon o m.shared).outside k → active m.shared.outside k := by
    intro k hk
    rcases t.outside_abandon (o := o) (s := m.shared) with heq | heq
    · rwa [heq] at hk
    · rw [heq] at hk
      exact htracks.cancelled _ _ _ hk
  have hothers : ∀ j, j ≠ t.number →
      hands j (trace ++ (giveBack t.held).map (Event.mk t.number)) = hands j trace := by
    intro j hj
    rw [hands, Machine.Account.stepsOf_of_others (by simp) hj, hands]
  have hself : hands t.number (trace ++ (giveBack t.held).map (Event.mk t.number)) = .away ∨
      hands t.number (trace ++ (giveBack t.held).map (Event.mk t.number)) =
        hands t.number trace := by
    rw [hands, stepsOf_append, stepsOf_map_same]
    exact Custody.of_giveBack ..
  constructor
  case kept =>
    intro k hk
    rcases h.kept k (hactive k hk) with hforeign | hdoubted | hstores | ⟨j, hj⟩
    · exact .inl hforeign
    · exact .inr (.inl hdoubted.mono)
    · exact .inr (.inr (.inl (hstores.congr fun n => by rw [t.memory_abandon])))
    · by_cases htj : j = t.number
      · subst htj
        cases hempty.symm.trans hj
      · exact .inr (.inr (.inr ⟨j, by rw [hothers j htj]; exact hj⟩))
  case dropped =>
    intro j n client hj hk
    by_cases htj : j = t.number
    · subst htj
      rcases hself with haway | hstays
      · cases haway.symm.trans hj
      · exact absurd (hstays.symm.trans hj) (hdropping n client)
    · rw [hothers j htj] at hj
      exact (h.dropped j n client hj (hactive _ hk)).mono
  case faithful =>
    intro e he
    rcases List.mem_append.mp he with he | he
    · exact h.faithful e he
    · obtain ⟨x, hx, rfl⟩ := List.mem_map.mp he
      obtain ⟨lock, -, rfl⟩ := List.mem_map.mp hx
      trivial

end Watched

/-! ## What is there later -/

/-- Nobody has anything in its hands, and a connection has no client. -/
structure Settled (start : Memory) (events : List Event) (n : Nat) : Prop where
  away : ∀ j, hands j events = .away
  empty : ∀ m, start.Runs (events.map Event.step) m → m.client n = none

variable {before later : List Event} {j k n : Nat} {memory : Memory} {client : Client}

variable (h : Carried lock ns (before ++ later)) (hfaithful : ∀ e ∈ later, e.step.Faithful)
include h

include hfaithful

end Carried

namespace ConnectionManager

open Carried

variable {ω : Type} {o : Outside ω} {active : ω → Nat → Prop} {foreign : Nat → Prop}
  {m : ConnectionManager} {memory : Memory} {outside : ω} {schedule first : List (Move ω Result)}

/-- A world whose vCenter knows a user. -/
def oneUser : World := { vcenter := ({} : Vcenter).acceptUser "k8s" "secret" }

/-- The memory of a connection manager with one server. -/
def oneLogin : Memory := ({} : Memory).start 0 { username := "k8s", password := "secret" }

/-- A connection manager with two servers. -/
def twoServers : ConnectionManager :=
  (({} : ConnectionManager).insert { hostname := "a" } none).insert { hostname := "b" } none

/-- Its memory. -/
def twoLogins : Memory := oneLogin.start 1 { username := "k8s", password := "secret" }

/-- Connect to a server that is logged out already, while the other one is not. -/
def connectedMeanwhile : List (Move World Result) :=
  .begin (twoServers.program .logoutAll) :: List.replicate 3 (.step 0) ++
    .begin (twoServers.program (.connect "a")) :: List.replicate 16 (.step 1) ++
      List.replicate 16 (.step 0)

/-- Who connects while all others are logged out keeps the session. -/
theorem logoutAll_overtaken :
    ((Machine.idle twoLogins oneUser).run World.outside connectedMeanwhile).results.map Prod.fst =
        [1, 0] ∧
      World.HasSession
        ((Machine.idle twoLogins oneUser).run World.outside connectedMeanwhile).shared.outside 1 := by
  refine ⟨by decide +kernel, ?_⟩
  unfold World.HasSession
  decide +kernel

end ConnectionManager

end VcenterAccess
