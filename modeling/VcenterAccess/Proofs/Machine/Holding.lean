import VcenterAccess.Proofs.Machine.Trace

/-!
# Who holds a lock

A task holds the locks that it took and did not give back (`heldAfter`).  A program is
bracketed if it takes no lock that it holds, gives back only locks that it holds, and
ends without any.

What a lock grants to one task, no operation of another task takes away
(`perform_spares`), as long as locks are given back only by those who have them.  So
whoever finds a lock granted can rely on it until it gives the lock back itself.
-/

namespace VcenterAccess

/-- Locks are taken by who does not hold them, and given back by who does. -/
def Rule.bracketing : Rule (List Lock) where
  next held x :=
    match x.operation with
    | .acquire lock => lock :: held
    | .release lock => held.erase lock
    | _ => held
  allows held operation :=
    match operation with
    | .acquire lock => lock ∉ held
    | .release lock => lock ∈ held
    | _ => True

/-- The locks that a task holds after some steps, the last one first. -/
def heldAfter (h : List Step) : List Lock := Rule.bracketing.after [] h

theorem heldAfter_concat (h : List Step) (x : Step) :
    heldAfter (h ++ [x]) = Rule.bracketing.next (heldAfter h) x :=
  Rule.after_concat ..

theorem nodup_next {held : List Lock} {x : Step} (hnodup : held.Nodup)
    (hx : Rule.bracketing.allows held x.operation) : (Rule.bracketing.next held x).Nodup := by
  obtain ⟨operation, answer⟩ := x
  cases operation with
  | acquire lock => exact List.nodup_cons.mpr ⟨hx, hnodup⟩
  | release lock => exact hnodup.erase lock
  | _ => exact hnodup

/-- Nobody holds a lock twice. -/
theorem nodup_heldAfter {h : List Step} (hall : Rule.bracketing.Allows [] h) :
    (heldAfter h).Nodup := by
  induction h using List.reverseRecOn with
  | nil => exact List.nodup_nil
  | append_singleton h x ih =>
      obtain ⟨hall, hx⟩ := Rule.allows_concat.mp hall
      rw [heldAfter_concat]
      exact nodup_next (ih hall) hx

/-- The program takes and gives back locks in order, and none is left in the end. -/
def Program.Bracketed {α : Type} (p : Program α) : Prop :=
  p.Obeys .bracketing (fun held _ => held = []) []

theorem after_giveBack (held : List Lock) : Rule.bracketing.after held (giveBack held) = [] := by
  induction held with
  | nil => rfl
  | cons lock held ih =>
      have hnext : Rule.bracketing.next (lock :: held) ⟨.release lock, ()⟩ = held :=
        List.erase_cons_head ..
      rw [giveBack, List.map_cons, Rule.after_cons, hnext]
      exact ih

namespace LockState

variable {s : LockState} {k task : Nat}

/-- A task has the lock or waits for it. -/
def Serves (s : LockState) (k : Nat) : Prop := s.holder? = some k ∨ s.isAwaitedBy k = true

theorem serves_join_self (s : LockState) (task : Nat) : (s.join task).Serves task := by
  cases s with
  | free => exact .inl rfl
  | held holder waiting => exact .inr (by simp [join, isAwaitedBy])

theorem holder?_join_of_holder (h : s.holder? = some k) (task : Nat) :
    (s.join task).holder? = some k := by
  rw [holder?_join, h, Option.getD_some]

theorem Serves.join (h : s.Serves k) (task : Nat) : (s.join task).Serves k := by
  rcases h with h | h
  · exact .inl (holder?_join_of_holder h task)
  · cases s with
    | free => cases h
    | held holder waiting =>
        refine .inr ?_
        simp only [isAwaitedBy, List.contains_eq_mem, decide_eq_true_eq] at h
        simp [LockState.join, isAwaitedBy, h]

/-- Who waits gets nearer when the lock is passed on. -/
theorem Serves.pass (h : s.Serves k) (hne : s.holder? ≠ some k) : s.pass.Serves k := by
  rcases h with h | h
  · exact absurd h hne
  · cases s with
    | free => cases h
    | held holder waiting =>
        cases waiting with
        | nil => simp [isAwaitedBy] at h
        | cons next waiting =>
            by_cases hk : k = next
            · exact .inl (by simp [LockState.pass, holder?, hk])
            · refine .inr ?_
              simpa [LockState.pass, isAwaitedBy, hk] using h

theorem holder?_leave (s : LockState) (task : Nat) : (s.leave task).holder? = s.holder? := by
  cases s <;> rfl

theorem Serves.leave (h : s.Serves k) (hne : k ≠ task) : (s.leave task).Serves k := by
  rcases h with h | h
  · exact .inl (by rw [holder?_leave, h])
  · cases s with
    | free => cases h
    | held holder waiting =>
        refine .inr ?_
        simp only [isAwaitedBy, List.contains_eq_mem, decide_eq_true_eq] at h
        simp [LockState.leave, isAwaitedBy, h, hne]

/-- A lock that does not let its new applicant wait was free. -/
theorem holder?_of_not_isAwaitedBy_join (h : (s.join task).isAwaitedBy task = false) :
    s.holder? = none ∧ (s.join task).holder? = some task := by
  rw [isAwaitedBy_join] at h
  have hnone : s.holder? = none := by simpa using h
  exact ⟨hnone, by rw [holder?_join, hnone, Option.getD_none]⟩

end LockState

namespace Shared

variable {ω : Type} {s s' s'' : Shared ω} {k : Nat}

/-- What `s` grants to a task, `s'` grants it too. -/
def Spares (s s' : Shared ω) (k : Nat) : Prop :=
  ∀ lock, ((s.lock lock).holder? = some k → (s'.lock lock).holder? = some k) ∧
    ((s.lock lock).Serves k → (s'.lock lock).Serves k)

theorem Spares.of_lock (h : s'.lock = s.lock) : s.Spares s' k := by
  intro lock
  rw [h]
  exact ⟨id, id⟩

theorem Spares.trans (h : s.Spares s' k) (h' : s'.Spares s'' k) : s.Spares s'' k :=
  fun lock => ⟨fun hl => (h' lock).1 ((h lock).1 hl), fun hl => (h' lock).2 ((h lock).2 hl)⟩

theorem lock_join_of_ne {lock lock' : Lock} (hne : lock' ≠ lock) (task : Nat) :
    (s.join lock task).lock lock' = s.lock lock' := by
  simp [Shared.join, hne]

theorem lock_join_self (lock : Lock) (task : Nat) :
    (s.join lock task).lock lock = (s.lock lock).join task := by
  simp [Shared.join]

theorem lock_release_of_ne {lock lock' : Lock} (hne : lock' ≠ lock) :
    (s.release lock).lock lock' = s.lock lock' := by
  simp [Shared.release, hne]

theorem lock_release_self (lock : Lock) : (s.release lock).lock lock = (s.lock lock).pass := by
  simp [Shared.release]

theorem spares_join (lock : Lock) (task : Nat) : s.Spares (s.join lock task) k := by
  intro lock'
  by_cases hl : lock' = lock
  · subst hl
    rw [lock_join_self]
    exact ⟨fun h => LockState.holder?_join_of_holder h task, fun h => h.join task⟩
  · rw [lock_join_of_ne hl]
    exact ⟨id, id⟩

/-- Wait for a lock, unless that is so already. -/
def queue (s : Shared ω) (lock : Lock) (task : Nat) (waits : Bool) : Shared ω :=
  if waits then s else s.join lock task

theorem spares_queue (lock : Lock) (task : Nat) (waits : Bool) :
    s.Spares (s.queue lock task waits) k := by
  cases waits with
  | true => exact .of_lock rfl
  | false => exact spares_join lock task

theorem memory_queue (s : Shared ω) (lock : Lock) (task : Nat) (waits : Bool) :
    (s.queue lock task waits).memory = s.memory := by
  cases waits <;> rfl

theorem serves_queue {lock : Lock} {task : Nat} {waits : Bool}
    (hserves : waits = true → (s.lock lock).Serves task) :
    ((s.queue lock task waits).lock lock).Serves task := by
  cases waits with
  | true => exact hserves rfl
  | false =>
      change ((s.join lock task).lock lock).Serves task
      rw [lock_join_self]
      exact LockState.serves_join_self _ task

/-- Giving back a lock spares everybody but who had it. -/
theorem spares_release {lock : Lock} (hne : (s.lock lock).holder? ≠ some k) :
    s.Spares (s.release lock) k := by
  intro lock'
  by_cases hl : lock' = lock
  · subst hl
    rw [lock_release_self]
    exact ⟨fun h => absurd h hne, fun h => h.pass hne⟩
  · rw [lock_release_of_ne hl]
    exact ⟨id, id⟩

theorem spares_leave {lock : Lock} {task : Nat} (hne : k ≠ task)
    (hserves : (s.lock lock).Serves task) : s.Spares (s.leave lock task) k := by
  by_cases hwaits : (s.lock lock).isAwaitedBy task = true
  · intro lock'
    rw [Shared.leave, if_pos hwaits]
    by_cases hl : lock' = lock
    · subst hl
      simp only [assign_same]
      exact ⟨fun h => by rw [LockState.holder?_leave, h], fun h => h.leave hne⟩
    · simp only [assign_other _ hl]
      exact ⟨id, id⟩
  · rw [Shared.leave, if_neg hwaits]
    refine spares_release fun h => hne ?_
    have hholder : (s.lock lock).holder? = some task := by
      rcases hserves with hserves | hserves
      · exact hserves
      · exact absurd hserves hwaits
    exact Option.some.inj (h.symm.trans hholder)

theorem lock_leave_of_ne {lock lock' : Lock} (hne : lock' ≠ lock) (task : Nat) :
    (s.leave lock task).lock lock' = s.lock lock' := by
  unfold Shared.leave
  split
  · exact assign_other _ hne _
  · exact lock_release_of_ne hne

theorem memory_leave (s : Shared ω) (lock : Lock) (task : Nat) :
    (s.leave lock task).memory = s.memory := by
  unfold Shared.leave
  split <;> rfl

/-- Giving back all locks that a task has spares everybody else. -/
theorem spares_giveBack {task : Nat} (hne : k ≠ task) :
    ∀ (held : List Lock) (s : Shared ω), held.Nodup →
      (∀ lock ∈ held, (s.lock lock).holder? = some task) → s.Spares (held.foldl release s) k
  | [], _, _, _ => .of_lock rfl
  | lock :: held, s, hnodup, hholds => by
      obtain ⟨hlock, hnodup⟩ := List.nodup_cons.mp hnodup
      have hfirst : s.Spares (s.release lock) k := by
        refine spares_release fun h => hne ?_
        exact Option.some.inj (h.symm.trans (hholds lock (List.mem_cons_self ..)))
      refine hfirst.trans (spares_giveBack hne held _ hnodup fun lock' hl => ?_)
      have hne : lock' ≠ lock := by
        rintro rfl
        exact hlock hl
      rw [lock_release_of_ne hne]
      exact hholds lock' (List.mem_cons_of_mem _ hl)

theorem memory_giveBack (held : List Lock) (s : Shared ω) :
    (held.foldl release s).memory = s.memory := by
  induction held generalizing s with
  | nil => rfl
  | cons lock held ih =>
      rw [List.foldl_cons, ih]
      rfl

end Shared

namespace Operation

variable {ω : Type} {o : Outside ω} {task : Nat} {waits : Bool} {held : List Lock} {s : Shared ω}
  {operation : Operation}

theorem perform_acquire (lock : Lock) :
    (acquire lock).perform o task waits held s =
      if ((s.queue lock task waits).lock lock).isAwaitedBy task then
        ⟨none, held, s.queue lock task waits⟩
      else ⟨some (), lock :: held, s.queue lock task waits⟩ := rfl

theorem shared_perform_acquire (lock : Lock) :
    ((acquire lock).perform o task waits held s).shared = s.queue lock task waits := by
  rw [perform_acquire]
  split <;> rfl

/-- An operation that has to wait changes neither memory nor held locks, and takes
nothing from anybody. -/
theorem perform_none (h : (operation.perform o task waits held s).answer = none) :
    (operation.perform o task waits held s).held = held ∧
      (operation.perform o task waits held s).shared.memory = s.memory ∧
      ∀ k, s.Spares (operation.perform o task waits held s).shared k := by
  cases operation with
  | acquire lock =>
      rw [shared_perform_acquire, Shared.memory_queue]
      rw [perform_acquire] at h ⊢
      split at h
      · next hwaits =>
          exact ⟨by rw [if_pos hwaits], rfl, fun k => Shared.spares_queue lock task waits⟩
      · cases h
  | ask question => exact ⟨rfl, rfl, fun k => .of_lock rfl⟩
  | _ => cases h

/-- An operation that is answered does to memory and held locks what its step says. -/
theorem perform_some {answer : operation.Answer}
    (h : (operation.perform o task waits held s).answer = some answer) :
    (operation.perform o task waits held s).held =
        Rule.bracketing.next held ⟨operation, answer⟩ ∧
      s.memory.Tells ⟨operation, answer⟩ ∧
      (operation.perform o task waits held s).shared.memory =
        s.memory.after ⟨operation, answer⟩ := by
  cases operation with
  | acquire lock =>
      rw [shared_perform_acquire, Shared.memory_queue]
      rw [perform_acquire] at h ⊢
      split at h
      · cases h
      · next hfree => exact ⟨by rw [if_neg hfree]; rfl, trivial, rfl⟩
  | getClient connection =>
      cases h
      exact ⟨rfl, rfl, rfl⟩
  | getLogin connection =>
      cases h
      exact ⟨rfl, rfl, rfl⟩
  | getCache source =>
      cases h
      exact ⟨rfl, rfl, rfl⟩
  | ask question => exact ⟨rfl, trivial, rfl⟩
  | _ => exact ⟨rfl, trivial, rfl⟩

/-- An operation of a task spares the others. -/
theorem perform_spares {k : Nat} (hne : k ≠ task)
    (hrelease : ∀ lock, operation = .release lock → (s.lock lock).holder? = some task) :
    s.Spares (operation.perform o task waits held s).shared k := by
  cases operation with
  | acquire lock =>
      rw [shared_perform_acquire]
      exact Shared.spares_queue lock task waits
  | release lock =>
      refine Shared.spares_release fun h => hne ?_
      exact Option.some.inj (h.symm.trans (hrelease lock rfl))
  | _ => exact .of_lock rfl

/-- Whoever gets a lock has it, and it was free or granted before. -/
theorem perform_acquire_some {lock : Lock} (hserves : waits = true → (s.lock lock).Serves task)
    {answer : Unit}
    (h : ((acquire lock).perform o task waits held s).answer = some answer) :
    (((acquire lock).perform o task waits held s).shared.lock lock).holder? = some task ∧
      ((s.lock lock).holder? = none ∨ (s.lock lock).holder? = some task) := by
  rw [shared_perform_acquire]
  rw [perform_acquire] at h
  split at h
  · cases h
  · next hfree =>
      cases waits with
      | true =>
          have hholder : (s.lock lock).holder? = some task :=
            (hserves rfl).resolve_right hfree
          exact ⟨hholder, .inr hholder⟩
      | false =>
          change ((s.join lock task).lock lock).isAwaitedBy task ≠ true at hfree
          change ((s.join lock task).lock lock).holder? = some task ∧ _
          rw [Shared.lock_join_self] at hfree ⊢
          obtain ⟨hnone, hholder⟩ :=
            LockState.holder?_of_not_isAwaitedBy_join (Bool.eq_false_iff.mpr hfree)
          exact ⟨hholder, .inl hnone⟩

/-- A task keeps the locks that it held and did not give back. -/
theorem perform_holds {answer : operation.Answer} (hnodup : held.Nodup)
    (hholds : ∀ lock ∈ held, (s.lock lock).holder? = some task)
    (hserves : ∀ lock, operation = .acquire lock → waits = true → (s.lock lock).Serves task)
    (h : (operation.perform o task waits held s).answer = some answer) :
    ∀ lock ∈ Rule.bracketing.next held ⟨operation, answer⟩,
      ((operation.perform o task waits held s).shared.lock lock).holder? = some task := by
  intro lock' hl
  cases operation with
  | acquire lock =>
      by_cases hne : lock' = lock
      · subst hne
        exact (perform_acquire_some (hserves lock' rfl) h).1
      · have hheld : lock' ∈ held := (List.mem_cons.mp hl).resolve_left hne
        rw [shared_perform_acquire]
        exact (Shared.spares_queue lock task waits lock').1 (hholds lock' hheld)
  | release lock =>
      obtain ⟨hne, hheld⟩ := hnodup.mem_erase_iff.mp hl
      change ((s.release lock).lock lock').holder? = some task
      rw [Shared.lock_release_of_ne hne]
      exact hholds lock' hheld
  | _ => exact hholds lock' hl

end Operation

end VcenterAccess
