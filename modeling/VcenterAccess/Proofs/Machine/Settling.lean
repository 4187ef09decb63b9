import VcenterAccess.Proofs.Machine.Account
import VcenterAccess.Proofs.Machine.Moves

/-!
# One thread

A machine that settles lets the first ready task go on until it waits or is done, and then
the next one.  Which tasks are ready does not matter for what a move does, so such a machine
follows a schedule (`Machine.Paced.follows`).  In that schedule a task only makes a step while
all others wait or have not begun to work (`Machine.Paced.oneThread_and_resting`).
-/

namespace VcenterAccess

/-! ## Who is ready does not matter -/

namespace Shared

variable {ω : Type} {s s' : Shared ω}

/-- The same but for who is ready. -/
def Alike (s s' : Shared ω) : Prop := { s with ready := [] } = { s' with ready := [] }

theorem alike_withReady (s : Shared ω) (ready : List Nat) : ({ s with ready } : Shared ω).Alike s :=
  rfl

/-- There is only one way to be alike. -/
theorem Alike.exists_eq (h : s.Alike s') : ∃ ready, s = { s' with ready } := by
  obtain ⟨memory, lock, outside, ready⟩ := s
  cases h
  exact ⟨ready, rfl⟩

theorem Alike.release (h : s.Alike s') (lock : Lock) : (s.release lock).Alike (s'.release lock) := by
  obtain ⟨ready, rfl⟩ := h.exists_eq
  rfl

theorem Alike.giveBack (h : s.Alike s') (held : List Lock) :
    (held.foldl Shared.release s).Alike (held.foldl Shared.release s') := by
  induction held generalizing s s' with
  | nil => exact h
  | cons lock held ih => exact ih (h.release lock)

theorem Alike.leave (h : s.Alike s') (lock : Lock) (task : Nat) :
    (s.leave lock task).Alike (s'.leave lock task) := by
  obtain ⟨ready, rfl⟩ := h.exists_eq
  unfold Shared.leave
  split
  · rfl
  · exact (alike_withReady ..).release lock

end Shared

section

variable {ω α : Type} {o : Outside ω} {s s' : Shared ω}

/-- What is performed does not depend on who is ready. -/
theorem Operation.perform_of_alike (h : s.Alike s') (operation : Operation) (task : Nat)
    (waits : Bool) (held : List Lock) :
    (operation.perform o task waits held s).answer =
        (operation.perform o task waits held s').answer ∧
      (operation.perform o task waits held s).held =
        (operation.perform o task waits held s').held ∧
      (operation.perform o task waits held s).shared.Alike
        (operation.perform o task waits held s').shared := by
  obtain ⟨ready, rfl⟩ := h.exists_eq
  cases operation with
  | acquire lock =>
      have hqueue : Shared.queue { s' with ready } lock task waits =
          { s'.queue lock task waits with ready } := by
        cases waits <;> rfl
      rw [perform_acquire, perform_acquire, hqueue]
      dsimp only
      cases ((s'.queue lock task waits).lock lock).isAwaitedBy task <;> exact ⟨rfl, rfl, rfl⟩
  | ask question => cases waits <;> exact ⟨rfl, rfl, rfl⟩
  | _ => exact ⟨rfl, rfl, rfl⟩

theorem Task.step_of_alike (h : s.Alike s') (t : Task α) :
    (t.step o s).1 = (t.step o s').1 ∧ (t.step o s).2.Alike (t.step o s').2 := by
  obtain ⟨number, program, waits, held⟩ := t
  cases program with
  | done a => exact ⟨rfl, h⟩
  | perform operation next =>
      obtain ⟨hanswer, hheld, hshared⟩ := operation.perform_of_alike (o := o) h number waits held
      simp only [Task.step, hanswer, hheld]
      cases (operation.perform o number waits held s').answer <;> exact ⟨rfl, hshared⟩

theorem Task.stopWaiting_of_alike (h : s.Alike s') (t : Task α) :
    (t.stopWaiting o s).Alike (t.stopWaiting o s') := by
  unfold Task.stopWaiting
  split
  · exact h.leave _ _
  · obtain ⟨ready, rfl⟩ := h.exists_eq
    rfl
  · exact h

theorem Task.abandon_of_alike (h : s.Alike s') (t : Task α) :
    (t.abandon o s).Alike (t.abandon o s') :=
  (t.stopWaiting_of_alike h).giveBack t.held

end

namespace Machine

variable {ω α : Type} {o : Outside ω} {m m' : Machine ω α}

/-- The same but for who is ready. -/
structure Alike (m m' : Machine ω α) : Prop where
  shared : m.shared.Alike m'.shared
  begun : m.begun = m'.begun
  tasks : m.tasks = m'.tasks
  results : m.results = m'.results

theorem Alike.trans {m'' : Machine ω α} (h : m.Alike m') (h' : m'.Alike m'') : m.Alike m'' :=
  ⟨Eq.trans h.shared h'.shared, h.begun.trans h'.begun, h.tasks.trans h'.tasks,
    h.results.trans h'.results⟩

theorem alike_yield (m : Machine ω α) : m.yield.Alike m := by
  unfold yield
  split
  · exact ⟨rfl, rfl, rfl, rfl⟩
  · split <;> exact ⟨rfl, rfl, rfl, rfl⟩

theorem Alike.task? (h : m.Alike m') (k : Nat) : m.task? k = m'.task? k := by
  rw [Machine.task?, h.tasks, Machine.task?]

theorem Alike.others (h : m.Alike m') (k : Nat) : m.others k = m'.others k := by
  rw [Machine.others, h.tasks, Machine.others]

theorem Alike.step (h : m.Alike m') (k : Nat) : (m.step o k).Alike (m'.step o k) := by
  rw [Machine.step, Machine.step, h.task?]
  cases m'.task? k with
  | none => exact h
  | some t =>
      obtain ⟨hout, hshared⟩ := t.step_of_alike (o := o) h.shared
      dsimp only
      generalize t.step o m.shared = out, t.step o m'.shared = out' at hout hshared
      obtain ⟨out, shared⟩ := out
      obtain ⟨out', shared'⟩ := out'
      obtain rfl : out = out' := hout
      cases out with
      | inl a => exact ⟨hshared, h.begun, h.others k, congrArg (· ++ [(k, a)]) h.results⟩
      | inr u => exact ⟨hshared, h.begun, congrArg (List.map _) h.tasks, h.results⟩

theorem Alike.abandon (h : m.Alike m') (k : Nat) : (m.abandon o k).Alike (m'.abandon o k) := by
  rw [Machine.abandon, Machine.abandon, h.task?]
  cases (m'.task? k).filter Task.isInterruptible with
  | none => exact h
  | some t => exact ⟨t.abandon_of_alike h.shared, h.begun, h.others k, h.results⟩

/-- A move does not depend on who is ready. -/
theorem Alike.move (h : m.Alike m') (x : Move ω α) : (m.move o x).Alike (m'.move o x) := by
  cases x with
  | begin p =>
      obtain ⟨ready, hshared⟩ := h.shared.exists_eq
      refine ⟨?_, congrArg (· + 1) h.begun, ?_, h.results⟩
      · simp only [Machine.move, Machine.begin, hshared]
        rfl
      · simp only [Machine.move, Machine.begin, h.tasks, h.begun]
  | change f =>
      obtain ⟨ready, hshared⟩ := h.shared.exists_eq
      refine ⟨?_, h.begun, h.tasks, h.results⟩
      simp only [Machine.move, Machine.change, hshared]
      rfl
  | step k => exact h.step k
  | abandon k => exact h.abandon k

end Machine

/-! ## Who is ready stays so -/

section

variable {ω α : Type} {o : Outside ω}

theorem Shared.ready_giveBack (held : List Lock) (s : Shared ω) :
    s.ready <+: (held.foldl Shared.release s).ready := by
  induction held generalizing s with
  | nil => exact List.prefix_rfl
  | cons lock held ih =>
      have hfirst : s.ready <+: (s.release lock).ready := List.prefix_append ..
      exact hfirst.trans (ih _)

theorem Operation.ready_perform (operation : Operation) (task : Nat) (waits : Bool)
    (held : List Lock) (s : Shared ω) :
    s.ready <+: (operation.perform o task waits held s).shared.ready := by
  cases operation with
  | acquire lock =>
      rw [shared_perform_acquire]
      cases waits <;> exact List.prefix_rfl
  | release lock => exact List.prefix_append ..
  | _ => exact List.prefix_rfl

theorem Task.ready_stopWaiting (t : Task α) (s : Shared ω) :
    s.ready <+: (t.stopWaiting o s).ready := by
  unfold Task.stopWaiting
  split
  · unfold Shared.leave
    split
    · exact List.prefix_rfl
    · exact List.prefix_append ..
  · exact List.prefix_append ..
  · exact List.prefix_rfl

/-- Whatever a task does, it takes nobody's turn away. -/
theorem Machine.ready_move (m : Machine ω α) (x : Move ω α) :
    m.shared.ready <+: (m.move o x).shared.ready := by
  have hmakes := makes_move o m x
  generalize m.move o x = m', m.events o x = events at hmakes
  cases hmakes with
  | begin p => exact List.prefix_append ..
  | wait => exact Operation.ready_perform ..
  | answer => exact Operation.ready_perform ..
  | abandon => exact (Task.ready_stopWaiting ..).trans (Shared.ready_giveBack ..)
  | _ => exact List.prefix_rfl

end

/-! ## One thread -/

namespace Machine

variable {ω α : Type} {o : Outside ω} {start m : Machine ω α} {schedule : List (Move ω α)}

/-- Tasks go on one at a time, each until it waits or is done. -/
def OneThread (o : Outside ω) (start : Machine ω α) (schedule : List (Move ω α)) : Prop :=
  ∀ first j rest, schedule = first ++ .step j :: rest → ∀ t ∈ (start.run o first).tasks,
    t.number ≠ j → t.waits = false → stepsOf t.number (start.trace o first) = []

theorem oneThread_concat {x : Move ω α} (h : OneThread o start schedule)
    (hx : ∀ j, x = .step j → ∀ t ∈ (start.run o schedule).tasks, t.number ≠ j →
      t.waits = false → stepsOf t.number (start.trace o schedule) = []) :
    OneThread o start (schedule ++ [x]) := by
  intro first j rest heq
  rcases List.eq_nil_or_concat rest with rfl | ⟨rest, y, rfl⟩
  · obtain ⟨rfl, hlast⟩ := List.append_inj' heq rfl
    exact hx j (List.singleton_inj.mp hlast)
  · rw [List.concat_eq_append, ← List.cons_append, ← List.append_assoc] at heq
    exact h first j rest (List.append_inj' heq rfl).1

/-- A machine that goes on as when it settles, with the moves that it makes. -/
inductive Paced (o : Outside ω) (start : Machine ω α) : List (Move ω α) → Machine ω α → Prop where
  | start : Paced o start [] start
  | begin {schedule : List (Move ω α)} {m : Machine ω α} (h : Paced o start schedule m)
      (p : Program α) : Paced o start (schedule ++ [.begin p]) (m.begin p)
  | change {schedule : List (Move ω α)} {m : Machine ω α} (h : Paced o start schedule m)
      (f : ω → ω) : Paced o start (schedule ++ [.change f]) (m.change f)
  | abandon {schedule : List (Move ω α)} {m : Machine ω α} (h : Paced o start schedule m)
      (k : Nat) : Paced o start (schedule ++ [.abandon k]) (m.abandon o k)
  /-- Somebody can go on because of something outside. -/
  | wake {schedule : List (Move ω α)} {m : Machine ω α} (h : Paced o start schedule m)
      (woken : List Nat) :
      Paced o start schedule { m with shared := { m.shared with ready := m.shared.ready ++ woken } }
  /-- The first one goes on. -/
  | step {schedule : List (Move ω α)} {m : Machine ω α} (h : Paced o start schedule m) {k : Nat}
      (hk : m.shared.ready.head? = some k) :
      Paced o start (schedule ++ [.step k]) (m.step o k).yield

namespace Paced

/-- Settling goes on in this way. -/
theorem settle (h : Paced o start schedule m) (steps : Nat) :
    ∃ moves, Paced o start (schedule ++ moves) (m.settle o steps) := by
  induction steps generalizing schedule m with
  | zero => exact ⟨[], by rwa [List.append_nil]⟩
  | succ steps ih =>
      rw [Machine.settle]
      split
      · exact ⟨[], by rwa [List.append_nil]⟩
      · next k rest hready =>
          obtain ⟨moves, hmoves⟩ := ih (h.step (by rw [hready]; rfl))
          exact ⟨.step k :: moves, by simpa using hmoves⟩

/-- It follows the schedule. -/
theorem follows (h : Paced o start schedule m) : m.Alike (start.run o schedule) := by
  induction h with
  | start => exact ⟨rfl, rfl, rfl, rfl⟩
  | begin h p ih =>
      rw [run_append]
      exact ih.move (o := o) (.begin p)
  | change h f ih =>
      rw [run_append]
      exact ih.move (o := o) (.change f)
  | abandon h k ih =>
      rw [run_append]
      exact ih.abandon k
  | wake h woken ih => exact ⟨ih.shared, ih.begun, ih.tasks, ih.results⟩
  | step h hk ih =>
      rw [run_append]
      exact (alike_yield _).trans (ih.step _)

end Paced

/-- Who is able to go on, and has begun to work, is the first one that is ready. -/
def Resting (o : Outside ω) (start : Machine ω α) (schedule : List (Move ω α))
    (m : Machine ω α) : Prop :=
  ∀ t ∈ m.tasks, t.waits = false → stepsOf t.number (start.trace o schedule) ≠ [] →
    m.shared.ready.head? = some t.number

/-- Who is there after a move was there before and did nothing, or begins with it, or made it. -/
theorem mem_move_other (m : Machine ω α) {x : Move ω α} {t : Task α}
    (ht : t ∈ (m.move o x).tasks) (hx : x ≠ .step t.number) :
    (t ∈ m.tasks ∨ t.number = m.begun) ∧ stepsOf t.number (m.events o x) = [] := by
  have hmakes := makes_move o m x
  generalize m.move o x = m', m.events o x = events at hmakes ht
  cases hmakes with
  | begin p =>
      refine ⟨?_, rfl⟩
      rcases List.mem_append.mp ht with ht | ht
      · exact .inl ht
      · exact .inr (congrArg Task.number (List.mem_singleton.mp ht))
  | change f => exact ⟨.inl ht, rfl⟩
  | nobody => exact ⟨.inl ht, rfl⟩
  | finish => exact ⟨.inl (mem_others.mp ht).1, rfl⟩
  | wait =>
      rcases mem_replace ht with rfl | ⟨ht, -⟩
      · exact absurd rfl hx
      · exact ⟨.inl ht, rfl⟩
  | answer =>
      rcases mem_replace ht with rfl | ⟨ht, hne⟩
      · exact absurd rfl hx
      · exact ⟨.inl ht, stepsOf_eq_nil (by simpa using hne.symm)⟩
  | abandon =>
      obtain ⟨ht, hne⟩ := mem_others.mp ht
      exact ⟨.inl ht, stepsOf_eq_nil (by simpa using fun _ _ => hne.symm)⟩

/-- Who can go on keeps its turn. -/
theorem head?_yield {t : Task α} (hdistinct : (m.tasks.map Task.number).Nodup) (ht : t ∈ m.tasks)
    (hwaits : t.waits = false) (hready : m.shared.ready.head? = some t.number) :
    m.yield.shared.ready.head? = some t.number := by
  have hactive : m.isActive t.number = true := by
    rw [isActive, task?_of_mem hdistinct ht]
    exact congrArg not hwaits
  unfold yield
  split
  · exact hready
  · next number rest hqueue =>
      rw [hqueue] at hready
      obtain rfl := Option.some.inj hready
      rw [if_pos hactive, hqueue]
      rfl

theorem head?_extend {l l' : List Nat} {k : Nat} (hl : l <+: l') (hk : l.head? = some k) :
    l'.head? = some k := by
  obtain ⟨_, rfl⟩ := hl
  simp [hk]

section

variable {memory : Memory} {outside : ω}

/-- Whoever does not make a move does not lose its turn by it.  Whoever begins by it has no turn
yet. -/
theorem Resting.head?_of_move (h : Resting o (idle memory outside) schedule m)
    (hm : m.Alike ((idle memory outside).run o schedule))
    (hb : ∀ p ∈ begunBy schedule, p.Bracketed) {x : Move ω α} {t : Task α}
    (ht : t ∈ (m.move o x).tasks) (hx : x ≠ .step t.number) (hwaits : t.waits = false)
    (hsteps : stepsOf t.number ((idle memory outside).trace o (schedule ++ [x])) ≠ []) :
    m.shared.ready.head? = some t.number := by
  rw [(hm.move x).tasks] at ht
  obtain ⟨hwas, hquiet⟩ := mem_move_other _ ht hx
  rw [trace_append, trace, trace, List.append_nil, stepsOf_append, hquiet, List.append_nil] at hsteps
  rcases hwas with hmem | hnew
  · exact h t (hm.tasks ▸ hmem) hwaits hsteps
  · obtain ⟨y, hy⟩ := List.exists_mem_of_ne_nil _ hsteps
    have hlt := (account_run (o := o) memory outside List.prefix_rfl hb).begun _ (mem_stepsOf.mp hy)
    exact absurd hlt (hnew ▸ Nat.lt_irrefl _)

theorem Resting.move (h : Resting o (idle memory outside) schedule m)
    (hm : m.Alike ((idle memory outside).run o schedule))
    (hb : ∀ p ∈ begunBy schedule, p.Bracketed) (x : Move ω α) (hx : ∀ j, x ≠ .step j) :
    Resting o (idle memory outside) (schedule ++ [x]) (m.move o x) := fun _ ht hwaits hsteps =>
  head?_extend (ready_move m x) (h.head?_of_move hm hb ht (hx _) hwaits hsteps)

/-- Along the moves of a machine that settles, tasks go on one at a time. -/
theorem Paced.oneThread_and_resting (h : Paced o (idle memory outside) schedule m)
    (hb : ∀ p ∈ begunBy schedule, p.Bracketed) :
    OneThread o (idle memory outside) schedule ∧ Resting o (idle memory outside) schedule m := by
  have hearlier : ∀ {schedule : List (Move ω α)} {x : Move ω α},
      (∀ p ∈ begunBy (schedule ++ [x]), p.Bracketed) → ∀ p ∈ begunBy schedule, p.Bracketed :=
    fun hb p hp => hb p (((List.prefix_append ..).filterMap _).subset hp)
  induction h with
  | start => exact ⟨by simp [OneThread], by simp [Resting, idle]⟩
  | begin h p ih =>
      obtain ⟨hone, hresting⟩ := ih (hearlier hb)
      exact ⟨oneThread_concat hone (by simp),
        hresting.move h.follows (hearlier hb) (.begin p) (by simp)⟩
  | change h f ih =>
      obtain ⟨hone, hresting⟩ := ih (hearlier hb)
      exact ⟨oneThread_concat hone (by simp),
        hresting.move h.follows (hearlier hb) (.change f) (by simp)⟩
  | abandon h k ih =>
      obtain ⟨hone, hresting⟩ := ih (hearlier hb)
      exact ⟨oneThread_concat hone (by simp),
        hresting.move h.follows (hearlier hb) (.abandon k) (by simp)⟩
  | wake h woken ih =>
      obtain ⟨hone, hresting⟩ := ih hb
      refine ⟨hone, fun t ht hwaits hsteps => ?_⟩
      exact head?_extend (List.prefix_append ..) (hresting t ht hwaits hsteps)
  | @step schedule m h k hk ih =>
      obtain ⟨hone, hresting⟩ := ih (hearlier hb)
      constructor
      · refine oneThread_concat hone ?_
        rintro _ ⟨⟩ t ht hne hwaits
        by_contra hsteps
        rw [← h.follows.tasks] at ht
        exact hne (Option.some.inj ((hresting t ht hwaits hsteps).symm.trans hk))
      · intro t ht hwaits hsteps
        rw [(alike_yield _).tasks] at ht
        by_cases hkt : t.number = k
        · subst hkt
          have hdistinct := (account_run (o := o) memory outside List.prefix_rfl hb).distinct
          rw [← (h.step hk).follows.tasks, (alike_yield _).tasks] at hdistinct
          exact head?_yield hdistinct ht hwaits (head?_extend (ready_move m (.step t.number)) hk)
        · have hhead := hresting.head?_of_move h.follows (hearlier hb) (x := .step k) ht
            (by simpa using Ne.symm hkt) hwaits hsteps
          exact absurd (Option.some.inj (hhead.symm.trans hk)) hkt

end

end Machine

end VcenterAccess
