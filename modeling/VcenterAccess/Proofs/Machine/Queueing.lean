import VcenterAccess.Proofs.Machine.Guarding

/-!
# First come, first served

Whoever has a lock stands first in its queue, before all who wait for it
(`LockState.queue`).  New ones go to the end, and whoever gives the lock back or gives up is
taken out.  Nobody stands there twice, or without holding the lock or waiting for it
(`Machine.Orderly`).

So whoever waits for a lock is served before everybody who comes to its queue later
(`Machine.acquire_in_turn`).
-/

namespace VcenterAccess

/-! ## Queues -/

namespace LockState

variable {s : LockState} {k task : Nat}

/-- Who has a lock, and after it who waits for it. -/
def queue : LockState → List Nat
  | free => []
  | held holder waiting => holder :: waiting

theorem holder?_eq_head? (s : LockState) : s.holder? = s.queue.head? := by
  cases s <;> rfl

theorem isAwaitedBy_iff : s.isAwaitedBy task = true ↔ task ∈ s.queue.tail := by
  cases s <;> simp [isAwaitedBy, queue]

theorem serves_iff : s.Serves k ↔ k ∈ s.queue := by
  cases s with
  | free => simp [Serves, holder?, isAwaitedBy, queue]
  | held holder waiting => simp [Serves, holder?, isAwaitedBy, queue, eq_comm]

theorem queue_join (s : LockState) (task : Nat) : (s.join task).queue = s.queue ++ [task] := by
  cases s <;> rfl

/-- Whoever is not there twice is not there any more after the lock was passed on. -/
theorem queue_pass (hnodup : s.queue.Nodup) (hholder : s.holder? = some task) :
    s.pass.queue = s.queue.filter (· ≠ task) := by
  cases s with
  | free => cases hholder
  | held holder waiting =>
      obtain rfl : holder = task := Option.some.inj hholder
      obtain ⟨hnot, -⟩ := List.nodup_cons.mp hnodup
      have hwaiting : waiting.filter (· ≠ holder) = waiting := by
        refine List.filter_eq_self.mpr fun k hk => decide_eq_true ?_
        rintro rfl
        exact hnot hk
      have hqueue : (held holder waiting).queue.filter (· ≠ holder) = waiting := by
        simpa [queue] using hwaiting
      rw [hqueue]
      cases waiting <;> rfl

theorem queue_leave (hnodup : s.queue.Nodup) (hawaited : s.isAwaitedBy task = true) :
    (s.leave task).queue = s.queue.filter (· ≠ task) := by
  cases s with
  | free => cases hawaited
  | held holder waiting =>
      obtain ⟨hnot, -⟩ := List.nodup_cons.mp hnodup
      have hne : holder ≠ task := by
        rintro rfl
        exact hnot (isAwaitedBy_iff.mp hawaited)
      simp [leave, queue, hne]

end LockState

namespace Shared

variable {ω : Type} {s : Shared ω} {lock lock' : Lock} {task : Nat} {held : List Lock}

/-- Who stands in line for a lock. -/
def line (s : Shared ω) (lock : Lock) : List Nat := (s.lock lock).queue

theorem line_join_self : (s.join lock task).line lock = s.line lock ++ [task] := by
  rw [line, lock_join_self, LockState.queue_join, line]

theorem line_release_self (hnodup : (s.line lock).Nodup)
    (hholder : (s.lock lock).holder? = some task) :
    (s.release lock).line lock = (s.line lock).filter (· ≠ task) := by
  rw [line, lock_release_self, LockState.queue_pass hnodup hholder, line]

theorem line_release_of_ne (hne : lock' ≠ lock) : (s.release lock).line lock' = s.line lock' := by
  rw [line, lock_release_of_ne hne, line]

theorem line_leave_self (hnodup : (s.line lock).Nodup) (hserves : (s.lock lock).Serves task) :
    (s.leave lock task).line lock = (s.line lock).filter (· ≠ task) := by
  unfold Shared.leave
  split
  · next hawaited =>
      change (assign s.lock lock ((s.lock lock).leave task) lock).queue = _
      rw [assign_same, LockState.queue_leave hnodup hawaited, line]
  · next hnot => exact line_release_self hnodup (hserves.resolve_right hnot)

theorem line_leave_of_ne (hne : lock' ≠ lock) : (s.leave lock task).line lock' = s.line lock' := by
  rw [line, lock_leave_of_ne hne, line]

/-- Who gives locks back is taken out of their lines, and all others stay. -/
theorem line_giveBack (held : List Lock) (s : Shared ω) (hheld : held.Nodup)
    (hnodup : ∀ lock, (s.line lock).Nodup)
    (hholds : ∀ lock ∈ held, (s.lock lock).holder? = some task) :
    (held.foldl release s).line lock =
      if lock ∈ held then (s.line lock).filter (· ≠ task) else s.line lock := by
  induction held generalizing s with
  | nil => simp
  | cons first held ih =>
      obtain ⟨hfirst, hheld⟩ := List.nodup_cons.mp hheld
      have hholder := hholds first (List.mem_cons_self ..)
      have hline : ∀ lock', (s.release first).line lock' =
          if lock' = first then (s.line first).filter (· ≠ task) else s.line lock' := by
        intro lock'
        split
        · next heq => rw [heq, line_release_self (hnodup first) hholder]
        · next hne => exact line_release_of_ne hne
      rw [List.foldl_cons, ih (s.release first) hheld]
      · by_cases heq : lock = first
        · subst heq
          rw [if_neg hfirst, if_pos (List.mem_cons_self ..), hline, if_pos rfl]
        · rw [hline, if_neg heq]
          simp [heq]
      · intro lock'
        rw [hline]
        split
        · exact (hnodup first).filter _
        · exact hnodup lock'
      · intro lock' hl
        have hne : lock' ≠ first := by
          rintro rfl
          exact hfirst hl
        rw [lock_release_of_ne hne]
        exact hholds lock' (List.mem_cons_of_mem _ hl)

end Shared

/-- Only who takes or gives back a lock changes its line. -/
theorem Operation.line_perform {ω : Type} {o : Outside ω} {task : Nat} {waits : Bool}
    {held : List Lock} {s : Shared ω} {operation : Operation} {lock : Lock}
    (hacquire : operation ≠ .acquire lock) (hrelease : operation ≠ .release lock) :
    (operation.perform o task waits held s).shared.line lock = s.line lock := by
  cases operation with
  | acquire lock' =>
      have hne : lock ≠ lock' := fun heq => hacquire (heq ▸ rfl)
      rw [shared_perform_acquire]
      cases waits with
      | true => rfl
      | false =>
          change (s.join lock' task).line lock = s.line lock
          rw [Shared.line, Shared.lock_join_of_ne hne, Shared.line]
  | release lock' => exact Shared.line_release_of_ne fun heq => hrelease (heq ▸ rfl)
  | _ => rfl

/-! ## Who stands in a line -/

/-- A task holds a lock, or waits for it. -/
def Task.Wants {α : Type} (t : Task α) (lock : Lock) : Prop :=
  lock ∈ t.held ∨ t.waits = true ∧ ∃ next, t.program = .perform (.acquire lock) next

namespace Machine

variable {ω α : Type} {o : Outside ω}

/-- Nobody stands in a line twice, and whoever stands there wants the lock. -/
structure Orderly (m : Machine ω α) : Prop where
  nodup : ∀ lock, (m.shared.line lock).Nodup
  wanted : ∀ lock, ∀ k ∈ m.shared.line lock, ∃ t ∈ m.tasks, t.number = k ∧ t.Wants lock

theorem orderly_idle (memory : Memory) (outside : ω) : Orderly (idle (α := α) memory outside) where
  nodup _ := List.nodup_nil
  wanted _ _ hk := nomatch hk

namespace Orderly

variable {start : Memory} {programs : List (Program α)} {trace : List Event} {m : Machine ω α}
  {t : Task α}

/-- Who stands in the line of a lock and neither holds it nor waits does not exist. -/
theorem wants_of_mem (h : Orderly m) (haccount : Account start programs trace m) (ht : t ∈ m.tasks)
    {lock : Lock} (hl : t.number ∈ m.shared.line lock) : t.Wants lock := by
  obtain ⟨u, hu, heq, hwants⟩ := h.wanted lock t.number hl
  exact eq_of_number haccount.distinct ht hu heq ▸ hwants

/-- What becomes of one task leaves the others in their lines. -/
theorem replace (h : Orderly m) {number : Nat} (ht : m.task? number = some t) {t' : Task α}
    {shared : Shared ω} (hnumber : t'.number = number)
    (hnodup : ∀ lock, (shared.line lock).Nodup)
    (hothers : ∀ lock, ∀ k ∈ shared.line lock, k ≠ number → k ∈ m.shared.line lock)
    (hself : ∀ lock, number ∈ shared.line lock → t'.Wants lock) :
    Orderly { m with shared, tasks := m.replace number t' } := by
  obtain ⟨hmem, rfl⟩ := mem_of_task? ht
  refine ⟨hnodup, fun lock k hk => ?_⟩
  by_cases heq : k = t.number
  · subst heq
    exact ⟨t', List.mem_map.mpr ⟨t, hmem, if_pos rfl⟩, hnumber, hself lock hk⟩
  · obtain ⟨u, hu, rfl, hwants⟩ := h.wanted lock k (hothers lock k hk heq)
    exact ⟨u, List.mem_map.mpr ⟨u, hu, if_neg heq⟩, rfl, hwants⟩

/-- Who is done or abandoned stands nowhere any more. -/
theorem others (h : Orderly m) {number : Nat} {shared : Shared ω} {results : List (Nat × α)}
    (hline : ∀ lock, shared.line lock = (m.shared.line lock).filter (· ≠ number)) :
    Orderly { m with shared, tasks := m.others number, results } := by
  refine ⟨fun lock => ?_, fun lock k hk => ?_⟩
  · rw [hline]
    exact (h.nodup lock).filter _
  · change k ∈ shared.line lock at hk
    rw [hline, List.mem_filter] at hk
    obtain ⟨u, hu, rfl, hwants⟩ := h.wanted lock k hk.1
    exact ⟨u, mem_others.mpr ⟨hu, of_decide_eq_true hk.2⟩, rfl, hwants⟩

section

variable (h : Orderly m) (haccount : Account start programs trace m)
  (hb : ∀ p ∈ programs, p.Bracketed)

include h haccount

/-- Who wants a lock not stands not in its line. -/
theorem filter_line (ht : t ∈ m.tasks) {lock : Lock} (hwants : ¬ t.Wants lock) :
    (m.shared.line lock).filter (· ≠ t.number) = m.shared.line lock := by
  refine List.filter_eq_self.mpr fun k hk => decide_eq_true ?_
  rintro rfl
  exact hwants (h.wants_of_mem haccount ht hk)

/-- Who stops waiting leaves the line in which it waited. -/
theorem line_stopWaiting (ht : t ∈ m.tasks) (lock : Lock) :
    (t.stopWaiting o m.shared).line lock = (m.shared.line lock).filter (· ≠ t.number) ∨
      (t.stopWaiting o m.shared).line lock = m.shared.line lock ∧
        ¬ (t.waits = true ∧ ∃ next, t.program = .perform (.acquire lock) next) := by
  unfold Task.stopWaiting
  split
  · next lock' next hw hp =>
      by_cases heq : lock = lock'
      · subst heq
        exact .inl (Shared.line_leave_self (h.nodup lock)
          ((haccount.task t ht).served lock next hw hp))
      · refine .inr ⟨Shared.line_leave_of_ne heq, ?_⟩
        rintro ⟨-, next', hp'⟩
        cases hp.symm.trans hp'
        exact heq rfl
  · next hw hp =>
      refine .inr ⟨rfl, ?_⟩
      rintro ⟨-, next', hp'⟩
      cases hp.symm.trans hp'
  · next hnot _ => exact .inr ⟨rfl, fun ⟨hw, next, hp⟩ => hnot lock next hw hp⟩

include hb

/-- What an operation of a task does to the lines. -/
theorem line_perform (ht : t ∈ m.tasks) {operation : Operation}
    {next : operation.Answer → Program α} (hp : t.program = .perform operation next) (lock : Lock) :
    let line := (operation.perform o t.number t.waits t.held m.shared).shared.line lock
    line = m.shared.line lock ∧ operation ≠ .release lock ∨
      operation = .acquire lock ∧ t.waits = false ∧ t.number ∉ m.shared.line lock ∧
        line = m.shared.line lock ++ [t.number] ∨
      operation = .release lock ∧ line = (m.shared.line lock).filter (· ≠ t.number) := by
  have hacc := haccount.task t ht
  obtain ⟨hobeys, -⟩ := hacc.bracketed hb
  rw [hp] at hobeys
  by_cases hacquire : operation = .acquire lock
  · subst hacquire
    rw [Operation.shared_perform_acquire]
    cases hw : t.waits with
    | true => exact .inl ⟨rfl, nofun⟩
    | false =>
        refine .inr (.inl ⟨rfl, rfl, fun hl => ?_, Shared.line_join_self⟩)
        rcases h.wants_of_mem haccount ht hl with hheld | ⟨hwaits, -⟩
        · exact hobeys.1 hheld
        · cases hw.symm.trans hwaits
  · by_cases hrelease : operation = .release lock
    · subst hrelease
      exact .inr (.inr ⟨rfl, Shared.line_release_self (h.nodup lock) (hacc.holds lock hobeys.1)⟩)
    · exact .inl ⟨Operation.line_perform hacquire hrelease, hrelease⟩

/-- A task that waits or goes on wants the locks in whose lines it stands. -/
theorem perform (ht : m.task? t.number = some t) {operation : Operation}
    {next : operation.Answer → Program α} (hp : t.program = .perform operation next)
    {t' : Task α} (hnumber : t'.number = t.number)
    (hheld : ∀ lock ∈ t.held, operation ≠ .release lock → lock ∈ t'.held)
    (htakes : ∀ lock, operation = .acquire lock → t'.Wants lock) :
    Orderly { m with
      shared := (operation.perform o t.number t.waits t.held m.shared).shared
      tasks := m.replace t.number t' } := by
  obtain ⟨hmem, -⟩ := mem_of_task? ht
  have hline := h.line_perform (o := o) haccount hb hmem hp
  refine h.replace ht hnumber (fun lock => ?_) (fun lock k hk hne => ?_) fun lock hl => ?_
  · rcases hline lock with ⟨heq, -⟩ | ⟨-, -, hnot, heq⟩ | ⟨-, heq⟩
    · rw [heq]
      exact h.nodup lock
    · rw [heq]
      simpa using (h.nodup lock).concat hnot
    · rw [heq]
      exact (h.nodup lock).filter _
  · rcases hline lock with ⟨heq, -⟩ | ⟨-, -, -, heq⟩ | ⟨-, heq⟩
    · rwa [heq] at hk
    · rw [heq] at hk
      exact (List.mem_append.mp hk).resolve_right fun hlast => hne (List.mem_singleton.mp hlast)
    · rw [heq] at hk
      exact List.mem_of_mem_filter hk
  · rcases hline lock with ⟨heq, hrelease⟩ | ⟨hacquire, -⟩ | ⟨-, heq⟩
    · rw [heq] at hl
      rcases h.wants_of_mem haccount hmem hl with hheld' | ⟨-, next', hp'⟩
      · exact .inl (hheld lock hheld' hrelease)
      · exact htakes lock (by cases hp.symm.trans hp'; rfl)
    · exact htakes lock hacquire
    · rw [heq] at hl
      exact absurd rfl (of_decide_eq_true (List.mem_filter.mp hl).2)

/-- Who is abandoned leaves all lines. -/
theorem line_abandon (ht : t ∈ m.tasks) (lock : Lock) :
    (t.abandon o m.shared).line lock = (m.shared.line lock).filter (· ≠ t.number) := by
  have hacc := haccount.task t ht
  obtain ⟨-, hheld⟩ := hacc.bracketed hb
  obtain ⟨hholds, -⟩ := hacc.stopWaiting hb o
  have hstop := h.line_stopWaiting (o := o) haccount ht
  have hnodup : ∀ lock', ((t.stopWaiting o m.shared).line lock').Nodup := by
    intro lock'
    rcases hstop lock' with heq | ⟨heq, -⟩
    · rw [heq]
      exact (h.nodup lock').filter _
    · rw [heq]
      exact h.nodup lock'
  rw [Task.abandon, Shared.line_giveBack t.held _ hheld hnodup hholds]
  rcases hstop lock with heq | ⟨heq, hno⟩
  · rw [heq]
    simp
  · rw [heq]
    split
    · rfl
    · next hnot =>
        refine (h.filter_line haccount ht ?_).symm
        rintro (hl | hwaits)
        · exact hnot hl
        · exact hno hwaits

/-- One move. -/
theorem move (x : Move ω α) : Orderly (m.move o x) := by
  have hmakes := makes_move o m x
  generalize m.move o x = m', m.events o x = later at hmakes
  cases hmakes with
  | begin p =>
      refine ⟨h.nodup, fun lock k hk => ?_⟩
      obtain ⟨t, ht, hwants⟩ := h.wanted lock k hk
      exact ⟨t, List.mem_append_left _ ht, hwants⟩
  | change f => exact ⟨h.nodup, h.wanted⟩
  | nobody => exact h
  | @finish t a ht hp =>
      obtain ⟨hmem, -⟩ := mem_of_task? ht
      refine h.others fun lock => (h.filter_line haccount hmem ?_).symm
      rintro (hheld | ⟨-, next, hp'⟩)
      · have hobeys := ((haccount.task t hmem).bracketed hb).1
        rw [hp] at hobeys
        rw [show t.held = [] from hobeys] at hheld
        cases hheld
      · cases hp.symm.trans hp'
  | wait ht hp hans =>
      refine h.perform haccount hb ht hp rfl (fun lock hl _ => hl) ?_
      rintro lock rfl
      exact .inr ⟨rfl, _, hp⟩
  | answer ht hp hans =>
      obtain ⟨hheld, -⟩ := Operation.perform_some hans
      refine h.perform haccount hb ht hp rfl (fun lock hl hne => ?_) ?_
      · rw [hheld]
        exact mem_next_of_mem hl hne
      · rintro lock rfl
        refine .inl ?_
        rw [hheld]
        exact List.mem_cons_self ..
  | abandon ht _ =>
      obtain ⟨hmem, -⟩ := mem_of_task? ht
      exact h.others (h.line_abandon haccount hb hmem)

end

end Orderly

/-- Along every schedule of bracketed programs, lines are orderly. -/
theorem orderly_run (memory : Memory) (outside : ω) {schedule first : List (Move ω α)}
    (hfirst : first <+: schedule) (hb : ∀ p ∈ begunBy schedule, p.Bracketed) :
    Orderly ((idle memory outside).run o first) := by
  induction first using List.reverseRecOn with
  | nil => exact orderly_idle memory outside
  | append_singleton first x ih =>
      have hbefore := (List.prefix_append first [x]).trans hfirst
      rw [run_append]
      exact (ih hbefore).move (account_run memory outside hbefore hb) hb x

/-! ## First come, first served -/

/-- In a line, `j` does not stand before `k`, who is there. -/
def NotBefore (line : List Nat) (j k : Nat) : Prop :=
  ∃ front back, line = front ++ k :: back ∧ j ∉ front

section

variable {line : List Nat} {i j k : Nat}

theorem notBefore_of_not_mem (hk : k ∈ line) (hj : j ∉ line) : NotBefore line j k := by
  obtain ⟨front, back, rfl⟩ := List.append_of_mem hk
  exact ⟨front, back, rfl, fun hmem => hj (List.mem_append_left _ hmem)⟩

theorem NotBefore.mem (h : NotBefore line j k) : k ∈ line := by
  obtain ⟨front, back, rfl, -⟩ := h
  simp

theorem NotBefore.concat (h : NotBefore line j k) (i : Nat) : NotBefore (line ++ [i]) j k := by
  obtain ⟨front, back, rfl, hj⟩ := h
  exact ⟨front, back ++ [i], by simp, hj⟩

theorem NotBefore.filter (h : NotBefore line j k) (hi : k ≠ i) :
    NotBefore (line.filter (· ≠ i)) j k := by
  obtain ⟨front, back, rfl, hj⟩ := h
  exact ⟨front.filter (· ≠ i), back.filter (· ≠ i), by simp [hi], fun hmem =>
    hj (List.mem_of_mem_filter hmem)⟩

/-- Who does not stand before somebody else is not the first. -/
theorem NotBefore.head?_ne (h : NotBefore line j k) (hne : j ≠ k) : line.head? ≠ some j := by
  obtain ⟨front, back, rfl, hj⟩ := h
  cases front with
  | nil => exact fun heq => hne (Option.some.inj heq).symm
  | cons i front =>
      intro heq
      obtain rfl : i = j := Option.some.inj heq
      exact hj (List.mem_cons_self ..)

end

/-- A task waits for a lock, and another one does not stand before it. -/
structure Precedes (m : Machine ω α) (lock : Lock) (k j : Nat) : Prop where
  waits : ∃ t ∈ m.tasks, t.number = k ∧ t.waits = true ∧
    ∃ next, t.program = .perform (.acquire lock) next
  line : NotBefore (m.shared.line lock) j k

/-- Nobody has a number any more. -/
def Gone (m : Machine ω α) (k : Nat) : Prop := k < m.begun ∧ ∀ t ∈ m.tasks, t.number ≠ k

/-- Who is gone does nothing, and does not come back. -/
theorem Gone.move {m : Machine ω α} {k : Nat} (h : m.Gone k) (x : Move ω α) :
    (m.move o x).Gone k ∧ ∀ e ∈ m.events o x, e.task ≠ k := by
  obtain ⟨hbegun, hgone⟩ := h
  have hmakes := makes_move o m x
  generalize m.move o x = m', m.events o x = later at hmakes
  cases hmakes with
  | begin p =>
      refine ⟨⟨Nat.lt_succ_of_lt hbegun, fun t ht => ?_⟩, by simp⟩
      rcases List.mem_append.mp ht with ht | ht
      · exact hgone t ht
      · obtain rfl := List.mem_singleton.mp ht
        exact (Nat.ne_of_lt hbegun).symm
  | change f => exact ⟨⟨hbegun, hgone⟩, by simp⟩
  | nobody => exact ⟨⟨hbegun, hgone⟩, by simp⟩
  | finish => exact ⟨⟨hbegun, fun t ht => hgone t (mem_others.mp ht).1⟩, by simp⟩
  | wait ht _ _ =>
      have hne := hgone _ (mem_of_task? ht).1
      refine ⟨⟨hbegun, fun u hu => ?_⟩, by simp⟩
      rcases mem_replace hu with rfl | ⟨hu, -⟩
      · exact hne
      · exact hgone u hu
  | answer ht _ _ =>
      have hne := hgone _ (mem_of_task? ht).1
      refine ⟨⟨hbegun, fun u hu => ?_⟩, by simpa using hne⟩
      rcases mem_replace hu with rfl | ⟨hu, -⟩
      · exact hne
      · exact hgone u hu
  | abandon ht _ =>
      have hne := hgone _ (mem_of_task? ht).1
      refine ⟨⟨hbegun, fun u hu => hgone u (mem_others.mp hu).1⟩, fun e he => ?_⟩
      obtain ⟨y, -, rfl⟩ := List.mem_map.mp he
      exact hne

theorem Gone.stepsOf {m : Machine ω α} {k : Nat} (h : m.Gone k) (schedule : List (Move ω α)) :
    stepsOf k (m.trace o schedule) = [] := by
  induction schedule generalizing m with
  | nil => rfl
  | cons x schedule ih =>
      obtain ⟨hnext, hevents⟩ := h.move (o := o) x
      rw [trace, stepsOf_append, stepsOf_eq_nil hevents, ih hnext, List.append_nil]

/-- An event at a move is the step of its task, or gives back a lock. -/
theorem exists_of_mem_events {m : Machine ω α} {x : Move ω α} {e : Event} (he : e ∈ m.events o x)
    (hne : ∀ lock, e.step.operation ≠ .release lock) :
    x = .step e.task ∧ m.events o x = [e] ∧
      ∃ t, m.task? e.task = some t ∧ ∃ next, t.program = .perform e.step.operation next := by
  have hmakes := makes_move o m x
  generalize m.move o x = m', m.events o x = later at hmakes he
  cases hmakes with
  | answer ht hp hans =>
      obtain rfl := List.mem_singleton.mp he
      exact ⟨rfl, rfl, _, ht, _, hp⟩
  | abandon ht _ =>
      obtain ⟨y, hy, rfl⟩ := List.mem_map.mp he
      obtain ⟨lock, -, rfl⟩ := List.mem_map.mp hy
      exact absurd rfl (hne lock)
  | _ => cases he

/-- An event at which no lock is given back is a step of its task. -/
theorem exists_step_of_trace {m : Machine ω α} {schedule : List (Move ω α)}
    {before later : List Event} {e : Event} (htrace : m.trace o schedule = before ++ e :: later)
    (hne : ∀ lock, e.step.operation ≠ .release lock) :
    ∃ first rest, schedule = first ++ .step e.task :: rest ∧ m.trace o first = before ∧
      (m.run o first).events o (.step e.task) = [e] ∧
        ∃ t, (m.run o first).task? e.task = some t ∧
          ∃ next, t.program = .perform e.step.operation next := by
  induction schedule generalizing m before with
  | nil => cases before <;> cases htrace
  | cons x schedule ih =>
      have hrest : ∀ before', before = m.events o x ++ before' →
          (m.move o x).trace o schedule = before' ++ e :: later →
          ∃ first rest, x :: schedule = first ++ .step e.task :: rest ∧
            m.trace o first = before ∧ (m.run o first).events o (.step e.task) = [e] ∧
              ∃ t, (m.run o first).task? e.task = some t ∧
                ∃ next, t.program = .perform e.step.operation next := by
        rintro before' rfl htrace
        obtain ⟨first, rest, rfl, rfl, ht⟩ := ih htrace
        exact ⟨x :: first, rest, rfl, rfl, ht⟩
      rcases List.append_eq_append_iff.mp htrace with ⟨before', hbefore, htrace⟩ | ⟨g, hevents, heq⟩
      · exact hrest before' hbefore htrace
      · cases g with
        | nil => exact hrest [] (by simpa using hevents.symm) heq.symm
        | cons e' g =>
            obtain ⟨rfl, -⟩ := List.cons_eq_cons.mp heq
            have hmem : e ∈ m.events o x := by simp [hevents]
            obtain ⟨rfl, hsingle, ht⟩ := exists_of_mem_events hmem hne
            obtain rfl : before = [] := by
              cases before with
              | nil => rfl
              | cons => simp [hsingle] at hevents
            exact ⟨[], schedule, rfl, rfl, hsingle, ht⟩

/-- A task that has begun to work is about to do what it does next, as it makes no step until
then. -/
theorem exists_pending (memory : Memory) (outside : ω) {first rest : List (Move ω α)}
    (hb : ∀ p ∈ begunBy (first ++ rest), p.Bracketed) {k : Nat} {x : Step}
    {between later : List Event}
    (hbegun : stepsOf k ((idle memory outside).trace o first) ≠ [])
    (htrace : ((idle memory outside).run o first).trace o rest = between ++ ⟨k, x⟩ :: later)
    (hbetween : stepsOf k between = []) (hne : ∀ lock, x.operation ≠ .release lock) :
    ∃ t ∈ ((idle memory outside).run o first).tasks, t.number = k ∧
      ∃ next, t.program = .perform x.operation next := by
  have haccount := account_run (o := o) memory outside (List.prefix_append first rest) hb
  obtain ⟨t, ht, rfl⟩ : ∃ t ∈ ((idle memory outside).run o first).tasks, t.number = k := by
    by_contra hnot
    obtain ⟨y, hy⟩ := List.exists_mem_of_ne_nil _ hbegun
    have hgone : ((idle memory outside).run o first).Gone k :=
      ⟨haccount.begun _ (mem_stepsOf.mp hy), fun t ht heq => hnot ⟨t, ht, heq⟩⟩
    have hsteps := hgone.stepsOf (o := o) rest
    rw [htrace, stepsOf_append, hbetween] at hsteps
    simp [VcenterAccess.stepsOf] at hsteps
  refine ⟨t, ht, rfl, ?_⟩
  obtain ⟨middle, rest, rfl, rfl, -, u, hu, next, hpu⟩ := exists_step_of_trace htrace hne
  obtain ⟨hmem, hnumber⟩ := mem_of_task? hu
  rw [← run_append] at hmem
  have hlast : first ++ middle <+: first ++ (middle ++ .step t.number :: rest) :=
    (List.prefix_append_right_inj first).mpr (List.prefix_append ..)
  obtain ⟨p, hp, hpath⟩ := (haccount.task t ht).path
  obtain ⟨p', hp', hpath'⟩ := ((account_run (o := o) memory outside hlast hb).task u hmem).path
  rw [hnumber] at hp' hpath'
  obtain rfl : p = p' := Option.some.inj (hp.symm.trans hp')
  rw [trace_append, stepsOf_append, hbetween, List.append_nil] at hpath'
  exact ⟨next, (hpath.unique hpath').trans hpu⟩

/-! ### One move -/

section

variable {start : Memory} {programs : List (Program α)} {trace : List Event} {m : Machine ω α}
  {lock : Lock} {j k : Nat} {t : Task α} {operation : Operation}
  {next : operation.Answer → Program α}

/-- What a task does puts nobody before somebody else: who comes is put at the end, and only who
gives the lock back leaves. -/
theorem Orderly.notBefore_perform (h : Orderly m) (haccount : Account start programs trace m)
    (hb : ∀ p ∈ programs, p.Bracketed) (ht : t ∈ m.tasks)
    (hp : t.program = .perform operation next) (hline : NotBefore (m.shared.line lock) j k)
    (hstays : operation = .release lock → k ≠ t.number) :
    NotBefore ((operation.perform o t.number t.waits t.held m.shared).shared.line lock) j k := by
  rcases h.line_perform (o := o) haccount hb ht hp lock with
    ⟨heq, -⟩ | ⟨-, -, -, heq⟩ | ⟨hrelease, heq⟩
  · exact heq.symm ▸ hline
  · exact heq.symm ▸ hline.concat _
  · exact heq.symm ▸ hline.filter (hstays hrelease)

/-- Who is abandoned puts nobody before somebody else, either. -/
theorem Orderly.notBefore_abandon (h : Orderly m) (haccount : Account start programs trace m)
    (hb : ∀ p ∈ programs, p.Bracketed) (ht : t ∈ m.tasks)
    (hline : NotBefore (m.shared.line lock) j k) (hne : k ≠ t.number) :
    NotBefore ((t.abandon o m.shared).line lock) j k := by
  rw [h.line_abandon haccount hb ht]
  exact hline.filter hne

/-- Who gets a lock finds its line empty, or stands first there. -/
theorem Account.head?_of_acquires (haccount : Account start programs trace m) (ht : t ∈ m.tasks)
    {next : Unit → Program α} (hp : t.program = .perform (.acquire lock) next)
    (hans : ((Operation.acquire lock).perform o t.number t.waits t.held m.shared).answer =
      some ()) :
    (m.shared.line lock).head? = none ∨ (m.shared.line lock).head? = some t.number := by
  have hserves : t.waits = true → (m.shared.lock lock).Serves t.number := fun hw =>
    (haccount.task t ht).served lock next hw hp
  rw [Shared.line, ← LockState.holder?_eq_head?]
  exact (Operation.perform_acquire_some hserves hans).2

/-- A lock is not given to who does not stand before somebody who waits for it. -/
theorem Precedes.not_acquires (h : m.Precedes lock k j) (hne : j ≠ k)
    (haccount : Account start programs trace m) (x : Move ω α) :
    ⟨j, .acquire lock, ()⟩ ∉ m.events o x := by
  have hmakes := makes_move o m x
  generalize m.move o x = m', m.events o x = later at hmakes
  intro hgets
  cases hmakes with
  | @answer t operation next answer ht hp hans =>
      have hevent := List.mem_singleton.mp hgets
      obtain rfl : j = t.number := congrArg Event.task hevent
      obtain rfl : operation = .acquire lock := (congrArg (fun e => e.step.operation) hevent).symm
      rcases haccount.head?_of_acquires (mem_of_task? ht).1 hp hans with hempty | hfirst
      · have hmem := h.line.mem
        rw [List.head?_eq_none_iff.mp hempty] at hmem
        cases hmem
      · exact h.line.head?_ne hne hfirst
  | abandon ht _ =>
      obtain ⟨y, hy, hevent⟩ := List.mem_map.mp hgets
      obtain ⟨lock', -, rfl⟩ := List.mem_map.mp hy
      cases hevent
  | _ => cases hgets

/-- Whoever waits without somebody before it still does so after a move of others, unless it is
gone. -/
theorem Precedes.stays (h : m.Precedes lock k j) (horderly : Orderly m)
    (haccount : Account start programs trace m) (hb : ∀ p ∈ programs, p.Bracketed) (x : Move ω α)
    (hothers : ∀ e ∈ m.events o x, e.task ≠ k) :
    (m.move o x).Gone k ∨ (m.move o x).Precedes lock k j := by
  obtain ⟨⟨u, hu, rfl, hwaits, next', hp'⟩, hline⟩ := h
  have hmakes := makes_move o m x
  generalize m.move o x = m', m.events o x = later at hmakes hothers
  cases hmakes with
  | begin p => exact .inr ⟨⟨u, List.mem_append_left _ hu, rfl, hwaits, next', hp'⟩, hline⟩
  | change f => exact .inr ⟨⟨u, hu, rfl, hwaits, next', hp'⟩, hline⟩
  | nobody => exact .inr ⟨⟨u, hu, rfl, hwaits, next', hp'⟩, hline⟩
  | finish ht hp =>
      refine .inr ⟨⟨u, mem_others.mpr ⟨hu, fun heq => ?_⟩, rfl, hwaits, next', hp'⟩, hline⟩
      obtain rfl := eq_of_number haccount.distinct (mem_of_task? ht).1 hu heq
      cases hp.symm.trans hp'
  | @wait t operation next ht hp hans =>
      obtain ⟨hmem, -⟩ := mem_of_task? ht
      refine .inr ⟨?_, horderly.notBefore_perform haccount hb hmem hp hline ?_⟩
      · by_cases heq : u.number = t.number
        · obtain rfl := eq_of_number haccount.distinct hmem hu heq
          exact ⟨_, List.mem_map.mpr ⟨u, hu, if_pos rfl⟩, rfl, rfl, next', hp'⟩
        · exact ⟨u, List.mem_map.mpr ⟨u, hu, if_neg heq⟩, rfl, hwaits, next', hp'⟩
      · rintro rfl
        cases hans
  | @answer t operation next answer ht hp hans =>
      have htu : u.number ≠ t.number := (hothers _ (List.mem_singleton_self _)).symm
      exact .inr ⟨⟨u, List.mem_map.mpr ⟨u, hu, if_neg htu⟩, rfl, hwaits, next', hp'⟩,
        horderly.notBefore_perform haccount hb (mem_of_task? ht).1 hp hline fun _ => htu⟩
  | @abandon t ht hawaits =>
      by_cases heq : u.number = t.number
      · refine .inl ⟨haccount.number_lt u hu, fun v hv => ?_⟩
        rw [heq]
        exact (mem_others.mp hv).2
      · exact .inr ⟨⟨u, mem_others.mpr ⟨hu, heq⟩, rfl, hwaits, next', hp'⟩,
          horderly.notBefore_abandon haccount hb (mem_of_task? ht).1 hline heq⟩

end

/-! ### A whole run -/

/-- First come, first served: nobody who stands behind gets the lock before who waits.  Until it
gets the lock, the latter still waits, and the other one does not stand before it. -/
theorem acquire_in_turn (memory : Memory) (outside : ω) {first rest : List (Move ω α)}
    (hb : ∀ p ∈ begunBy (first ++ rest), p.Bracketed) {lock : Lock} {j k : Nat} (hne : j ≠ k)
    (h : ((idle memory outside).run o first).Precedes lock k j) {before later : List Event}
    (htrace : ((idle memory outside).run o first).trace o rest =
      before ++ ⟨k, .acquire lock, ()⟩ :: later) (hfirst : stepsOf k before = []) :
    ⟨j, .acquire lock, ()⟩ ∉ before := by
  obtain ⟨middle, rest, rfl, rfl, -, t, ht, -⟩ := exists_step_of_trace htrace nofun
  rw [← run_append] at ht
  have hgone : ¬ ((idle memory outside).run o (first ++ middle)).Gone k := fun hgone =>
    hgone.2 t (mem_of_task? ht).1 (mem_of_task? ht).2
  have hmiddle : ∀ g, g <+: middle → ((idle memory outside).run o (first ++ g)).Gone k ∨
      ((idle memory outside).run o (first ++ g)).Precedes lock k j ∧
        ⟨j, .acquire lock, ()⟩ ∉ ((idle memory outside).run o first).trace o g := by
    intro g hg
    induction g using List.reverseRecOn with
    | nil => exact .inr ⟨by rwa [List.append_nil], by simp [trace]⟩
    | append_singleton g x ih =>
        have hprefix : first ++ g <+: first ++ (middle ++ .step k :: rest) :=
          (List.prefix_append_right_inj first).mpr
            (((List.prefix_append g [x]).trans hg).trans (List.prefix_append ..))
        have horderly := orderly_run (o := o) memory outside hprefix hb
        have haccount := account_run (o := o) memory outside hprefix hb
        have hmore : ((idle memory outside).run o first).trace o (g ++ [x]) =
            ((idle memory outside).run o first).trace o g ++
              ((idle memory outside).run o (first ++ g)).events o x := by
          rw [trace_append, ← run_append, trace, trace, List.append_nil]
        rw [← List.append_assoc, run_append]
        rcases ih ((List.prefix_append g [x]).trans hg) with hgone | ⟨hprecedes, hnot⟩
        · exact .inl (hgone.move x).1
        · have hothers : ∀ e ∈ ((idle memory outside).run o (first ++ g)).events o x,
              e.task ≠ k := by
            rintro e he rfl
            obtain ⟨last, rfl⟩ := hg
            have hmem : e.step ∈ stepsOf e.task (((idle memory outside).run o first).trace o
                (g ++ [x] ++ last)) := by
              rw [mem_stepsOf, trace_append, hmore]
              exact List.mem_append_left _ (List.mem_append_right _ he)
            rw [hfirst] at hmem
            cases hmem
          refine (hprecedes.stays horderly haccount hb x hothers).imp id fun hnext => ⟨hnext, ?_⟩
          rw [hmore, List.mem_append]
          exact not_or.mpr ⟨hnot, hprecedes.not_acquires hne haccount x⟩
  exact ((hmiddle middle List.prefix_rfl).resolve_left hgone).2

end Machine

end VcenterAccess
