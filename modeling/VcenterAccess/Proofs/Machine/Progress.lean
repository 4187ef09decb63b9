import Mathlib.Logic.Hydra
import VcenterAccess.Proofs.Machine.Queueing

/-!
# No deadlock

Locks are taken in the order of their ranks: first the right to connect, then credentials,
then a cache (`Rule.ascending`).  Whoever waits for a lock then waits for somebody who, if it
waits as well, waits for a lock of a higher rank.  So nobody waits in a circle, and somebody
can always go on (`Machine.unobstructed`).

Programs are finite trees.  So if there is an answer to every question, tasks that go on
while they can are all done after finitely many steps (`Machine.exists_drained`).
-/

namespace VcenterAccess

open Relation (CutExpand TransGen)

/-- The right to connect is taken before credentials, and these before a cache. -/
def Lock.rank : Lock → Nat
  | connect _ => 0
  | credentials _ => 1
  | cache _ => 2

/-- Only locks of lower ranks are held while a lock is taken. -/
def Rule.ascending : Rule (List Lock) where
  next := Rule.bracketing.next
  allows held operation :=
    match operation with
    | .acquire lock => ∀ other ∈ held, other.rank < lock.rank
    | .release lock => lock ∈ held
    | _ => True

theorem Rule.bracketing_of_ascending {held : List Lock} {operation : Operation}
    (h : Rule.ascending.allows held operation) : Rule.bracketing.allows held operation := by
  cases operation with
  | acquire lock => exact fun hl => Nat.lt_irrefl _ (h lock hl)
  | release lock => exact h
  | _ => trivial

/-- A program takes its locks in the order of their ranks, and has none in the end. -/
def Program.Ascends {α : Type} (p : Program α) : Prop :=
  p.Obeys .ascending (fun held _ => held = []) []

theorem Program.Ascends.bracketed {α : Type} {p : Program α} (hp : p.Ascends) : p.Bracketed :=
  .mono (r := .ascending) id (fun _ _ => rfl) (fun _ _ => Rule.bracketing_of_ascending)
    (fun _ _ => id) hp rfl

/-- Whoever waits for an answer can get one, after something else has changed outside. -/
def Outside.Answering {ω : Type} (o : Outside ω) : Prop :=
  ∀ task question s, ∃ f : ω → ω, ∃ answer, (o.collect task question (f s)).1 = some answer

namespace Program

variable {α : Type}

/-- A program goes on with another one. -/
inductive Follows : Program α → Program α → Prop where
  | intro {operation : Operation} {next : operation.Answer → Program α}
      (answer : operation.Answer) : Follows (next answer) (.perform operation next)

/-- No program goes on forever. -/
theorem wellFounded_follows : WellFounded (Follows (α := α)) := by
  refine ⟨fun p => ?_⟩
  induction p with
  | done a => exact ⟨_, fun q hq => nomatch hq⟩
  | perform operation next ih =>
      refine ⟨_, fun q hq => ?_⟩
      cases hq with
      | intro answer => exact ih answer

instance : Std.Irrefl (Follows (α := α)) := ⟨fun p => wellFounded_follows.irrefl.irrefl p⟩

end Program

namespace Machine

variable {ω α : Type} {o : Outside ω}

/-- A task is about to take a lock, or waits for it, and another one has the lock. -/
def Obstructs (m : Machine ω α) (k j : Nat) : Prop :=
  j ≠ k ∧ ∃ t ∈ m.tasks, t.number = j ∧ ∃ lock next, t.program = .perform (.acquire lock) next ∧
    (m.shared.lock lock).holder? = some k

/-- How high the lock ranks that a task is about to take. -/
def aim (m : Machine ω α) (k : Nat) : Nat :=
  match (m.task? k).map Task.program with
  | some (.perform (.acquire lock) _) => lock.rank + 1
  | _ => 0

theorem aim_le (m : Machine ω α) (k : Nat) : m.aim k ≤ 3 := by
  unfold aim
  split
  · next lock _ _ => cases lock <;> simp [Lock.rank]
  · exact Nat.zero_le 3

section

variable {start : Memory} {programs : List (Program α)} {trace : List Event} {m : Machine ω α}
  (haccount : Account start programs trace m) (horderly : Orderly m)
  (hascends : ∀ p ∈ programs, p.Ascends)

include haccount

theorem aim_of_acquire {t : Task α} (ht : t ∈ m.tasks) {lock : Lock} {next : Unit → Program α}
    (hp : t.program = .perform (.acquire lock) next) : m.aim t.number = lock.rank + 1 := by
  rw [aim, task?_of_mem haccount.distinct ht, Option.map_some, hp]

include hascends

/-- Whoever is about to take a lock holds only locks of lower ranks. -/
theorem rank_lt_of_held {t : Task α} (ht : t ∈ m.tasks) {lock : Lock} {next : Unit → Program α}
    (hp : t.program = .perform (.acquire lock) next) : ∀ other ∈ t.held, other.rank < lock.rank := by
  have hacc := haccount.task t ht
  obtain ⟨p, hprogram, hpath⟩ := hacc.path
  have hrest := (hascends p (List.mem_of_getElem? hprogram)).rest hpath
  rw [hp] at hrest
  have hheld : t.held = Rule.ascending.after [] (stepsOf t.number trace) := hacc.held
  rw [hheld]
  exact hrest.1

/-- Nobody waits for a lock that it holds. -/
theorem not_mem_held {t : Task α} (ht : t ∈ m.tasks) {lock : Lock} {next : Unit → Program α}
    (hp : t.program = .perform (.acquire lock) next) : lock ∉ t.held :=
  fun hl => Nat.lt_irrefl _ (rank_lt_of_held haccount hascends ht hp lock hl)

include horderly

/-- Whoever obstructs somebody is at work, and if somebody obstructs it, it aims higher.  Whoever
was only handed the lock is obstructed by nobody. -/
theorem Obstructs.aim_lt {j k : Nat} (h : m.Obstructs k j) :
    (∃ u ∈ m.tasks, u.number = k) ∧ ∀ i, m.Obstructs i k → m.aim j < m.aim k := by
  obtain ⟨-, t, ht, rfl, lock, next, hp, hholder⟩ := h
  have hline : k ∈ m.shared.line lock := by
    rw [LockState.holder?_eq_head?] at hholder
    exact List.mem_of_mem_head? hholder
  obtain ⟨u, hu, rfl, hwants⟩ := horderly.wanted lock k hline
  refine ⟨⟨u, hu, rfl⟩, ?_⟩
  rintro i ⟨hne, u', hu', hnumber, lock', next', hp', hholder'⟩
  obtain rfl := eq_of_number haccount.distinct hu hu' hnumber
  rcases hwants with hheld | ⟨-, next'', hp''⟩
  · rw [aim_of_acquire haccount ht hp, aim_of_acquire haccount hu hp']
    exact Nat.succ_lt_succ (rank_lt_of_held haccount hascends hu hp' lock hheld)
  · cases hp'.symm.trans hp''
    exact absurd (Option.some.inj (hholder.symm.trans hholder')) hne

/-- Nobody waits in a circle. -/
theorem not_transGen_obstructs (k : Nat) : ¬ TransGen (fun j i => m.Obstructs i j) k k := by
  intro h
  have hlt : ∀ j, TransGen (fun j i => m.Obstructs i j) j k → (∃ i, m.Obstructs i k) →
      m.aim j < m.aim k := by
    rintro j hj ⟨i, hi⟩
    induction hj using TransGen.head_induction_on with
    | single hfirst => exact (hfirst.aim_lt haccount horderly hascends).2 i hi
    | head hfirst hrest ih =>
        obtain ⟨l, hl, -⟩ := TransGen.head'_iff.mp hrest
        exact ((hfirst.aim_lt haccount horderly hascends).2 l hl).trans ih
  obtain ⟨i, hi, -⟩ := TransGen.head'_iff.mp h
  exact Nat.lt_irrefl _ (hlt k h ⟨i, hi⟩)

/-- As long as anybody is at work, somebody is obstructed by nobody: otherwise everybody would
have somebody who aims higher. -/
theorem unobstructed (hwork : m.tasks ≠ []) : ∃ t ∈ m.tasks, ∀ k, ¬ m.Obstructs k t.number := by
  by_contra hall
  push Not at hall
  have hhigh : ∀ n, ∃ t ∈ m.tasks, n ≤ m.aim t.number := by
    intro n
    induction n with
    | zero =>
        obtain ⟨t, ht⟩ := List.exists_mem_of_ne_nil _ hwork
        exact ⟨t, ht, Nat.zero_le _⟩
    | succ n ih =>
        obtain ⟨t, ht, hn⟩ := ih
        obtain ⟨k, hk⟩ := hall t ht
        obtain ⟨⟨u, hu, rfl⟩, haim⟩ := hk.aim_lt haccount horderly hascends
        obtain ⟨i, hi⟩ := hall u hu
        exact ⟨u, hu, Nat.lt_of_le_of_lt hn (haim i hi)⟩
  obtain ⟨t, -, hn⟩ := hhigh 4
  exact absurd (m.aim_le t.number) (Nat.not_le.mpr hn)

/-- A task that nobody obstructs gets the lock that it is about to take.  If it waits, it stands in
line, and it stands first; if not, nobody stands there, since it neither holds the lock nor waits
for it. -/
theorem answer_acquire {t : Task α} (ht : t ∈ m.tasks) {lock : Lock} {next : Unit → Program α}
    (hp : t.program = .perform (.acquire lock) next) (hfree : ∀ k, ¬ m.Obstructs k t.number) :
    ((Operation.acquire lock).perform o t.number t.waits t.held m.shared).answer = some () := by
  have hholder : ∀ k, (m.shared.lock lock).holder? = some k → k = t.number := by
    intro k hk
    by_contra hne
    exact hfree k ⟨Ne.symm hne, t, ht, rfl, lock, next, hp, hk⟩
  rw [Operation.perform_acquire, if_neg]
  cases hw : t.waits with
  | true =>
      intro hawaited
      have hqueue := horderly.nodup lock
      rw [LockState.isAwaitedBy_iff] at hawaited
      change t.number ∈ (m.shared.line lock).tail at hawaited
      cases hline : m.shared.line lock with
      | nil =>
          rw [hline] at hawaited
          cases hawaited
      | cons first rest =>
          have hfirst : (m.shared.lock lock).holder? = some first := by
            rw [LockState.holder?_eq_head?]
            exact congrArg List.head? hline
          rw [hline, hholder first hfirst] at hqueue
          rw [hline] at hawaited
          exact (List.nodup_cons.mp hqueue).1 hawaited
  | false =>
      change ¬ ((m.shared.join lock t.number).lock lock).isAwaitedBy t.number = true
      rw [Shared.lock_join_self, LockState.isAwaitedBy_join]
      cases hnone : (m.shared.lock lock).holder? with
      | none => simp
      | some k =>
          obtain rfl := hholder k hnone
          have hline : t.number ∈ m.shared.line lock := by
            rw [LockState.holder?_eq_head?] at hnone
            exact List.mem_of_mem_head? hnone
          rcases horderly.wants_of_mem haccount ht hline with hheld | ⟨hwaits, -⟩
          · exact absurd hheld (not_mem_held haccount hascends ht hp)
          · cases hw.symm.trans hwaits

/-- Somebody can go on: it is done, or its operation is answered, or it asks. -/
theorem exists_going (hwork : m.tasks ≠ []) :
    ∃ t ∈ m.tasks, (∃ a, t.program = .done a) ∨
      ∃ operation next, t.program = .perform operation next ∧
        ((∃ answer, (operation.perform o t.number t.waits t.held m.shared).answer = some answer) ∨
          ∃ question, operation = .ask question) := by
  obtain ⟨t, ht, hfree⟩ := unobstructed haccount horderly hascends hwork
  refine ⟨t, ht, ?_⟩
  cases hp : t.program with
  | done a => exact .inl ⟨a, rfl⟩
  | perform operation next =>
      refine .inr ⟨operation, next, rfl, ?_⟩
      cases operation with
      | acquire lock => exact .inl ⟨(), answer_acquire haccount horderly hascends ht hp hfree⟩
      | ask question => exact .inr ⟨question, rfl⟩
      | _ => exact .inl ⟨_, rfl⟩

end

/-! ## Until nobody is at work -/

section

variable {m : Machine ω α} (hdistinct : (m.tasks.map Task.number).Nodup) {t : Task α}
  (ht : t ∈ m.tasks)

include hdistinct ht

theorem exists_split_tasks : ∃ front back, m.tasks = front ++ t :: back ∧
    m.others t.number = front ++ back ∧ ∀ t', m.replace t.number t' = front ++ t' :: back := by
  obtain ⟨front, back, htasks⟩ := List.append_of_mem ht
  rw [htasks, List.map_append, List.map_cons, List.nodup_middle, List.nodup_cons] at hdistinct
  have hfront : ∀ u ∈ front, u.number ≠ t.number := fun u hu heq =>
    hdistinct.1 (List.mem_append_left _ (List.mem_map.mpr ⟨u, hu, heq⟩))
  have hback : ∀ u ∈ back, u.number ≠ t.number := fun u hu heq =>
    hdistinct.1 (List.mem_append_right _ (List.mem_map.mpr ⟨u, hu, heq⟩))
  refine ⟨front, back, htasks, ?_, fun t' => ?_⟩
  · have hfilter : ∀ l : List (Task α), (∀ u ∈ l, u.number ≠ t.number) →
        (l.filter fun u => u.number ≠ t.number) = l := fun l hl =>
      List.filter_eq_self.mpr fun u hu => decide_eq_true (hl u hu)
    rw [others, htasks, List.filter_append, List.filter_cons, hfilter front hfront,
      hfilter back hback]
    simp
  · have hmap : ∀ l : List (Task α), (∀ u ∈ l, u.number ≠ t.number) →
        (l.map fun u => if u.number = t.number then t' else u) = l := fun l hl =>
      (List.map_congr_left fun u hu => if_neg (hl u hu)).trans (List.map_id l)
    rw [replace, htasks, List.map_append, List.map_cons, hmap front hfront, hmap back hback,
      if_pos rfl]

end

/-- What is left to do. -/
def left (m : Machine ω α) : Multiset (Program α) := m.tasks.map Task.program

theorem coe_middle (front back : List (Task α)) (t : Task α) :
    (((front ++ t :: back).map Task.program : List (Program α)) : Multiset (Program α)) =
      {t.program} + ((front ++ back).map Task.program : List (Program α)) := by
  rw [Multiset.singleton_add, Multiset.cons_coe]
  exact Multiset.coe_eq_coe.mpr (List.perm_middle.map Task.program)

section

variable {m : Machine ω α} (hdistinct : (m.tasks.map Task.number).Nodup) {t : Task α}
  (ht : t ∈ m.tasks)

include hdistinct ht

/-- Less is left to do when a task is done. -/
theorem cutExpand_others {shared : Shared ω} {results : List (Nat × α)} :
    CutExpand Program.Follows
      (left { m with shared, tasks := m.others t.number, results }) m.left := by
  obtain ⟨front, back, htasks, hothers, -⟩ := exists_split_tasks hdistinct ht
  rw [left, left, htasks, hothers, coe_middle, add_comm]
  have hnone : CutExpand Program.Follows 0 {t.program} :=
    Relation.cutExpand_singleton fun _ h => absurd h (Multiset.notMem_zero _)
  simpa using (Relation.cutExpand_add_left _).mpr hnone

/-- As much is left to do when a task waits. -/
theorem left_replace {t' : Task α} {shared : Shared ω} (hprogram : t'.program = t.program) :
    left { m with shared, tasks := m.replace t.number t' } = m.left := by
  obtain ⟨front, back, htasks, -, hreplace⟩ := exists_split_tasks hdistinct ht
  rw [left, left, htasks, hreplace, coe_middle, coe_middle, hprogram]

/-- Less is left to do when a task goes on. -/
theorem cutExpand_replace {t' : Task α} (hfollows : t'.program.Follows t.program)
    {shared : Shared ω} :
    CutExpand Program.Follows (left { m with shared, tasks := m.replace t.number t' }) m.left := by
  obtain ⟨front, back, htasks, -, hreplace⟩ := exists_split_tasks hdistinct ht
  rw [left, left, htasks, hreplace, coe_middle, coe_middle]
  exact Relation.cutExpand_single_add hfollows _

end

/-- A move that begins nothing and abandons nobody. -/
def Continues : Move ω α → Prop
  | .step _ => True
  | .change _ => True
  | _ => False

/-- Some moves let a task go on, or end it. -/
structure Advances (o : Outside ω) (m : Machine ω α) (later : List (Move ω α)) : Prop where
  continues : ∀ x ∈ later, Continues x
  happens : m.trace o later ≠ [] ∨ (m.run o later).results ≠ m.results

theorem Advances.cons {m : Machine ω α} {x : Move ω α} {later : List (Move ω α)}
    (hx : Continues x) (hresults : (m.move o x).results = m.results)
    (h : (m.move o x).Advances o later) : m.Advances o (x :: later) where
  continues := List.forall_mem_cons.mpr ⟨hx, h.continues⟩
  happens := by
    refine h.happens.imp (fun htrace hnil => ?_) fun hrun => ?_
    · exact htrace (List.append_eq_nil_iff.mp hnil).2
    · rw [hresults] at hrun
      exact hrun

section

variable {m : Machine ω α} (hdistinct : (m.tasks.map Task.number).Nodup) {t : Task α}
  (ht : t ∈ m.tasks)

include hdistinct ht

theorem advances_done {a : α} (hp : t.program = .done a) :
    m.Advances o [.step t.number] ∧ CutExpand Program.Follows (m.step o t.number).left m.left := by
  obtain ⟨hstep, -⟩ := step_of_done (o := o) (task?_of_mem hdistinct ht) hp
  refine ⟨⟨by simp [Continues], .inr ?_⟩, ?_⟩
  · change (m.step o t.number).results ≠ m.results
    rw [hstep]
    simp
  · rw [hstep]
    exact cutExpand_others hdistinct ht

theorem advances_answer {operation : Operation} {next : operation.Answer → Program α}
    {answer : operation.Answer} (hp : t.program = .perform operation next)
    (hans : (operation.perform o t.number t.waits t.held m.shared).answer = some answer) :
    m.Advances o [.step t.number] ∧ CutExpand Program.Follows (m.step o t.number).left m.left := by
  obtain ⟨hstep, hevents⟩ := step_of_answer (task?_of_mem hdistinct ht) hp rfl hans
  refine ⟨⟨by simp [Continues], .inl ?_⟩, ?_⟩
  · rw [trace, hevents]
    simp
  · rw [hstep]
    refine cutExpand_replace hdistinct ht ?_
    rw [hp]
    exact .intro answer

/-- Whoever waits for an answer gets it after a change outside. -/
theorem advances_collect {question : Question} {next : question.Answer → Program α}
    (hp : t.program = .perform (.ask question) next) (hw : t.waits = true)
    (hanswering : o.Answering) :
    ∃ later, m.Advances o later ∧ CutExpand Program.Follows (m.run o later).left m.left := by
  obtain ⟨f, answer, hans⟩ := hanswering t.number question m.shared.outside
  have hanswer : ((Operation.ask question).perform o t.number t.waits t.held
      (m.change f).shared).answer = some answer := by
    rw [hw]
    exact hans
  obtain ⟨hadvances, hless⟩ := advances_answer (m := m.change f) hdistinct ht hp hanswer
  exact ⟨[.change f, .step t.number], .cons trivial rfl hadvances, hless⟩

/-- Whoever asks gets an answer at once, or later. -/
theorem advances_ask {question : Question} {next : question.Answer → Program α}
    (hp : t.program = .perform (.ask question) next) (hanswering : o.Answering) :
    ∃ later, m.Advances o later ∧ CutExpand Program.Follows (m.run o later).left m.left := by
  cases hw : t.waits with
  | true => exact advances_collect hdistinct ht hp hw hanswering
  | false =>
      cases hans : ((Operation.ask question).perform o t.number t.waits t.held m.shared).answer with
      | some answer =>
          obtain ⟨hadvances, hless⟩ := advances_answer hdistinct ht hp hans
          exact ⟨[.step t.number], hadvances, hless⟩
      | none =>
          have hstep := (step_of_wait (task?_of_mem hdistinct ht) hp rfl hans).1
          have hleft : (m.step o t.number).left = m.left := by
            rw [hstep, left_replace hdistinct ht]
            rfl
          have hdistinct' : ((m.step o t.number).tasks.map Task.number).Nodup := by
            rw [hstep]
            change ((m.replace t.number _).map Task.number).Nodup
            rwa [map_number_replace]
            rfl
          have ht' : { t with waits := true } ∈ (m.step o t.number).tasks := by
            rw [hstep]
            exact List.mem_map.mpr ⟨t, ht, if_pos rfl⟩
          obtain ⟨later, hadvances, hless⟩ := advances_collect hdistinct' ht' hp rfl hanswering
          refine ⟨.step t.number :: later, .cons trivial ?_ hadvances, hleft ▸ hless⟩
          change (m.step o t.number).results = m.results
          rw [hstep]

end

theorem exists_advance {start : Memory} {programs : List (Program α)} {trace : List Event}
    {m : Machine ω α} (haccount : Account start programs trace m) (horderly : Orderly m)
    (hascends : ∀ p ∈ programs, p.Ascends) (hanswering : o.Answering) (hwork : m.tasks ≠ []) :
    ∃ later, m.Advances o later ∧ CutExpand Program.Follows (m.run o later).left m.left := by
  obtain ⟨t, ht, ⟨a, hp⟩ | ⟨operation, next, hp, ⟨answer, hans⟩ | ⟨question, rfl⟩⟩⟩ :=
    exists_going (o := o) haccount horderly hascends hwork
  · exact ⟨_, advances_done haccount.distinct ht hp⟩
  · exact ⟨_, advances_answer haccount.distinct ht hp hans⟩
  · exact advances_ask haccount.distinct ht hp hanswering

/-- As long as there is an answer to every question, everybody can finish. -/
theorem exists_drained (memory : Memory) (outside : ω) {schedule : List (Move ω α)}
    (hascends : ∀ p ∈ begunBy schedule, p.Ascends) (hanswering : o.Answering) :
    ∃ later : List (Move ω α), (∀ x ∈ later, Continues x) ∧
      ((idle memory outside).run o (schedule ++ later)).tasks = [] := by
  generalize hleft : ((idle memory outside).run o schedule).left = programs
  induction programs using Program.wellFounded_follows.cutExpand.induction generalizing schedule with
  | _ programs ih =>
      subst hleft
      by_cases hwork : ((idle memory outside).run o schedule).tasks = []
      · exact ⟨[], by simp, by rwa [List.append_nil]⟩
      have hb : ∀ p ∈ begunBy schedule, p.Bracketed := fun p hp => (hascends p hp).bracketed
      obtain ⟨first, ⟨hfirst, -⟩, hless⟩ := exists_advance
        (account_run (o := o) memory outside List.prefix_rfl hb)
        (orderly_run memory outside List.prefix_rfl hb) hascends hanswering hwork
      have hbegun : begunBy (schedule ++ first) = begunBy schedule := by
        have hnone : begunBy first = [] := List.filterMap_eq_nil_iff.mpr fun x hx => by
          have hcontinues := hfirst x hx
          cases x with
          | begin p => exact hcontinues.elim
          | _ => rfl
        rw [begunBy, List.filterMap_append, ← begunBy, ← begunBy, hnone, List.append_nil]
      obtain ⟨later, hlater, hdrained⟩ := ih _ hless (hbegun ▸ hascends) (by rw [run_append])
      refine ⟨first ++ later, List.forall_mem_append.mpr ⟨hfirst, hlater⟩, ?_⟩
      rwa [← List.append_assoc]

/-- Tasks never wait for each other forever. -/
structure DeadlockFree (o : Outside ω) (m : Machine ω α) : Prop where
  /-- Nobody waits for a lock that it holds. -/
  unheld : ∀ t ∈ m.tasks, ∀ lock next, t.program = .perform (.acquire lock) next → lock ∉ t.held
  /-- Nobody waits in a circle. -/
  acyclic : ∀ k, ¬ TransGen (fun j i => m.Obstructs i j) k k
  /-- Somebody waits for no lock. -/
  unobstructed : m.tasks ≠ [] → ∃ t ∈ m.tasks, ∀ k, ¬ m.Obstructs k t.number
  /-- If there are answers, somebody goes on. -/
  advances : o.Answering → m.tasks ≠ [] → ∃ later, m.Advances o later
  /-- If there are answers, everybody can finish. -/
  drains : o.Answering → ∃ later : List (Move ω α), (∀ x ∈ later, Continues x) ∧
    (m.run o later).tasks = []

theorem deadlockFree_run (memory : Memory) (outside : ω) {schedule : List (Move ω α)}
    (hascends : ∀ p ∈ begunBy schedule, p.Ascends) :
    ((idle memory outside).run o schedule).DeadlockFree o := by
  have hb : ∀ p ∈ begunBy schedule, p.Bracketed := fun p hp => (hascends p hp).bracketed
  have haccount := account_run (o := o) memory outside List.prefix_rfl hb
  have horderly := orderly_run (o := o) memory outside List.prefix_rfl hb
  refine ⟨fun t ht lock next hp => not_mem_held haccount hascends ht hp,
    not_transGen_obstructs haccount horderly hascends,
    Machine.unobstructed haccount horderly hascends, fun hanswering hwork => ?_,
    fun hanswering => ?_⟩
  · obtain ⟨later, hadvances, -⟩ := exists_advance haccount horderly hascends hanswering hwork
    exact ⟨later, hadvances⟩
  · obtain ⟨later, hlater, hdrained⟩ := exists_drained (o := o) memory outside hascends hanswering
    exact ⟨later, hlater, by rwa [← run_append]⟩

end Machine

end VcenterAccess
