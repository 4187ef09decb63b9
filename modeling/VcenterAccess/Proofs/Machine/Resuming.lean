import VcenterAccess.Proofs.Machine.Queueing
import VcenterAccess.Proofs.Machine.Settling

/-!
# What the past leaves

What happens next depends on the memory, the locks, the outside and the tasks at work, and on
how many have begun.  The results of the past do not matter, nor does who is ready
(`Machine.Resembles`).

If nobody is at work, all locks are free (`Machine.lock_eq_free`).  So nothing is left then of
who was there before, done or abandoned, but the memory and the outside.
-/

namespace VcenterAccess

/-- A lock is its queue. -/
theorem LockState.eq_of_queue {s s' : LockState} (h : s.queue = s'.queue) : s = s' := by
  cases s with
  | free =>
      cases s' with
      | free => rfl
      | held => cases h
  | held holder waiting =>
      cases s' with
      | free => cases h
      | held =>
          cases h
          rfl

namespace Machine

variable {ω α : Type} {o : Outside ω} {m m' : Machine ω α}

/-- Without tasks, nobody has a lock. -/
theorem lock_eq_free (horderly : Orderly m) (hquiet : m.tasks = []) (lock : Lock) :
    m.shared.lock lock = .free := by
  refine LockState.eq_of_queue (List.eq_nil_iff_forall_not_mem.mpr fun k hk => ?_)
  obtain ⟨t, ht, -⟩ := horderly.wanted lock k hk
  rw [hquiet] at ht
  cases ht

/-- The same but for results of the past and for who is ready. -/
structure Resembles (m m' : Machine ω α) : Prop where
  shared : m.shared.Alike m'.shared
  begun : m.begun = m'.begun
  tasks : m.tasks = m'.tasks

/-- A move adds the same results to whatever results there are. -/
theorem exists_new_results (o : Outside ω) (m : Machine ω α) (x : Move ω α) :
    ∃ new, ∀ results, move o { m with results } x =
      { m.move o x with results := results ++ new } := by
  cases x with
  | begin p => exact ⟨[], fun results => by simp [move, begin]⟩
  | change f => exact ⟨[], fun results => by simp [move, change]⟩
  | step k =>
      have htask : ∀ results, task? { m with results } k = m.task? k := fun _ => rfl
      simp only [move, step, htask]
      cases m.task? k with
      | none => exact ⟨[], fun results => by simp⟩
      | some t =>
          dsimp only
          obtain ⟨a | u, shared⟩ := t.step o m.shared
          · exact ⟨[(k, a)], fun results => rfl⟩
          · exact ⟨[], fun results => by simp⟩
  | abandon k =>
      have htask : ∀ results, task? { m with results } k = m.task? k := fun _ => rfl
      simp only [move, abandon, htask]
      cases (m.task? k).filter Task.isInterruptible with
      | none => exact ⟨[], fun results => by simp⟩
      | some t => exact ⟨[], fun results => by simp; rfl⟩

theorem Alike.events (h : m.Alike m') (x : Move ω α) : m.events o x = m'.events o x := by
  cases x with
  | begin p => rfl
  | change f => rfl
  | step k =>
      rw [Machine.events, Machine.events, h.task?]
      cases m'.task? k with
      | none => rfl
      | some t =>
          obtain ⟨number, program, waits, held⟩ := t
          cases program with
          | done a => rfl
          | perform operation next =>
              have hanswer := (operation.perform_of_alike (o := o) h.shared number waits held).1
              simp only [Task.event?, hanswer]
  | abandon k => rw [Machine.events, Machine.events, h.task?]

/-- Machines that resemble each other make the same move. -/
theorem Resembles.move (h : m.Resembles m') (x : Move ω α) :
    (m.move o x).Resembles (m'.move o x) ∧ m.events o x = m'.events o x ∧
      ∃ new, (m.move o x).results = m.results ++ new ∧
        (m'.move o x).results = m'.results ++ new := by
  have halike : Machine.Alike { m with results := m'.results } m' :=
    ⟨h.shared, h.begun, h.tasks, rfl⟩
  obtain ⟨new, hnew⟩ := exists_new_results o m x
  have hmove := halike.move (o := o) x
  rw [hnew m'.results] at hmove
  refine ⟨⟨hmove.shared, hmove.begun, hmove.tasks⟩, halike.events x, new, ?_, hmove.results.symm⟩
  exact congrArg Machine.results (hnew m.results)

/-- What happens along a schedule is the same, and so is what it leaves. -/
theorem Resembles.run (h : m.Resembles m') (schedule : List (Move ω α)) :
    (m.run o schedule).Resembles (m'.run o schedule) ∧
      m.trace o schedule = m'.trace o schedule ∧
      ∃ new, (m.run o schedule).results = m.results ++ new ∧
        (m'.run o schedule).results = m'.results ++ new := by
  induction schedule generalizing m m' with
  | nil => exact ⟨h, rfl, [], by simp [Machine.run], by simp [Machine.run]⟩
  | cons x schedule ih =>
      obtain ⟨hmove, hevents, new, hresults, hresults'⟩ := h.move (o := o) x
      obtain ⟨hrun, htrace, later, hlater, hlater'⟩ := ih hmove
      refine ⟨hrun, ?_, new ++ later, ?_, ?_⟩
      · rw [trace, trace, hevents, htrace]
      · rw [run_cons, hlater, hresults, List.append_assoc]
      · rw [run_cons, hlater', hresults', List.append_assoc]

/-- The same memory, the same outside and the same tasks at work, who wait in the same
queues. -/
structure Agrees (m m' : Machine ω α) : Prop where
  memory : m.shared.memory = m'.shared.memory
  outside : m.shared.outside = m'.shared.outside
  begun : m.begun = m'.begun
  tasks : m.tasks = m'.tasks
  lock : m.tasks ≠ [] → m.shared.lock = m'.shared.lock

/-- Whatever is done next, the same happens and the same is left. -/
def SameFuture (o : Outside ω) (m m' : Machine ω α) : Prop :=
  ∀ schedule, m.trace o schedule = m'.trace o schedule ∧
    (m.run o schedule).shared.memory = (m'.run o schedule).shared.memory ∧
    ∃ new, (m.run o schedule).results = m.results ++ new ∧
      (m'.run o schedule).results = m'.results ++ new

theorem Agrees.resembles (h : m.Agrees m') (horderly : Orderly m) (horderly' : Orderly m') :
    m.Resembles m' := by
  refine ⟨?_, h.begun, h.tasks⟩
  have hlock : m.shared.lock = m'.shared.lock := by
    by_cases hquiet : m.tasks = []
    · funext lock
      rw [lock_eq_free horderly hquiet, lock_eq_free horderly' (h.tasks ▸ hquiet)]
    · exact h.lock hquiet
  rw [Shared.Alike, h.memory, hlock, h.outside]

/-- What agrees has the same future, whatever its past. -/
theorem Agrees.sameFuture (h : m.Agrees m') (horderly : Orderly m) (horderly' : Orderly m') :
    SameFuture o m m' := by
  intro schedule
  obtain ⟨hrun, htrace, hresults⟩ := (h.resembles horderly horderly').run (o := o) schedule
  obtain ⟨ready, hshared⟩ := hrun.shared.exists_eq
  exact ⟨htrace, by rw [hshared], hresults⟩

end Machine

end VcenterAccess
