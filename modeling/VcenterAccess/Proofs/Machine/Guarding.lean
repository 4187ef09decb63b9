import VcenterAccess.Proofs.Machine.Account

/-!
# What locks are good for

Every operation belongs to a lock (`Operation.lock`): taking and giving it back, and
what may only be done while it is held.  Clients and the outside belong to a connect
lock, what the next login uses belongs to the credentials lock of its connection.

A task in two phases first takes all locks that it needs and then gives them back
(`Rule.twoPhase`); a rule may ask for more than that (`Rule.guarded`).  If all tasks do
so, two of them never hold one lock (`holder_unique`), and what a task has read or
written under a lock stays as it is until the task gives the lock back
(`Cell.read_of_known`).
-/

namespace VcenterAccess

/-- The lock that an operation belongs to. -/
def Operation.lock (connectLock : Nat) : Operation → Lock
  | .acquire lock => lock
  | .release lock => lock
  | .getClient _ => .connect connectLock
  | .setClient _ _ => .connect connectLock
  | .getLogin connection => .credentials connection
  | .setLogin connection _ => .credentials connection
  | .getCache source => .cache source
  | .setCache source _ => .cache source
  | .ask _ => .connect connectLock

/-- How far a task is with its locks. -/
structure Locking where
  /-- The locks that it holds, the last one first. -/
  held : List Lock := []
  /-- Whether it gave a lock back already. -/
  released : Bool := false

/-- Locks are taken before the first one is given back, and everything else is done
under the lock that it belongs to. -/
def Rule.twoPhase (connectLock : Nat) : Rule Locking where
  next s x :=
    match x.operation with
    | .acquire lock => { s with held := lock :: s.held }
    | .release lock => ⟨s.held.erase lock, true⟩
    | _ => s
  allows s operation :=
    match operation with
    | .acquire lock => s.released = false ∧ lock ∉ s.held
    | .release lock => lock ∈ s.held
    | operation => operation.lock connectLock ∈ s.held

/-- How far a task is with its locks after some steps. -/
def lockingAfter (connectLock : Nat) (h : List Step) : Locking :=
  (Rule.twoPhase connectLock).after {} h

section

variable {connectLock : Nat}

theorem held_next (s : Locking) (x : Step) :
    ((Rule.twoPhase connectLock).next s x).held = Rule.bracketing.next s.held x := by
  obtain ⟨operation, answer⟩ := x
  cases operation <;> rfl

/-- What is allowed in two phases is in order. -/
theorem bracketing_of_twoPhase {s : Locking} {operation : Operation}
    (h : (Rule.twoPhase connectLock).allows s operation) :
    Rule.bracketing.allows s.held operation := by
  cases operation with
  | acquire lock => exact h.2
  | release lock => exact h
  | _ => trivial

variable (connectLock) in
theorem held_lockingAfter (h : List Step) : (lockingAfter connectLock h).held = heldAfter h := by
  induction h using List.reverseRecOn with
  | nil => rfl
  | append_singleton h x ih =>
      rw [lockingAfter, Rule.after_concat, heldAfter_concat, held_next]
      exact congrArg (fun held => Rule.bracketing.next held x) ih

/-- The steps keep to two phases. -/
def Disciplined (connectLock : Nat) (h : List Step) : Prop :=
  (Rule.twoPhase connectLock).Allows {} h

theorem disciplined_concat {h : List Step} {x : Step} :
    Disciplined connectLock (h ++ [x]) ↔ Disciplined connectLock h ∧
      (Rule.twoPhase connectLock).allows (lockingAfter connectLock h) x.operation :=
  Rule.allows_concat

/-- A step that neither takes nor gives back a lock is done under the lock that it
belongs to. -/
theorem lock_mem_of_allowed {h : List Step} {operation : Operation}
    (hallows : (Rule.twoPhase connectLock).allows (lockingAfter connectLock h) operation)
    (hne : ∀ lock, operation ≠ .acquire lock) : operation.lock connectLock ∈ heldAfter h := by
  rw [← held_lockingAfter connectLock]
  cases operation with
  | acquire lock => exact absurd rfl (hne lock)
  | _ => exact hallows

/-- As long as it gave back none, a task holds all locks that it used. -/
theorem lock_mem_of_mem {h : List Step} (hd : Disciplined connectLock h)
    (hreleased : (lockingAfter connectLock h).released = false) {y : Step} (hy : y ∈ h) :
    y.operation.lock connectLock ∈ heldAfter h := by
  induction h using List.reverseRecOn with
  | nil => cases hy
  | append_singleton h x ih =>
      obtain ⟨hbefore, hallows⟩ := disciplined_concat.mp hd
      have hnext : (lockingAfter connectLock (h ++ [x])) =
          (Rule.twoPhase connectLock).next (lockingAfter connectLock h) x := Rule.after_concat ..
      rw [hnext] at hreleased
      rw [heldAfter_concat]
      rcases List.mem_append.mp hy with hmem | hlast
      · obtain ⟨operation, answer⟩ := x
        cases operation with
        | acquire lock => exact List.mem_cons_of_mem _ (ih hbefore hreleased hmem)
        | release lock => cases hreleased
        | _ => exact ih hbefore hreleased hmem
      · obtain rfl := List.mem_singleton.mp hlast
        obtain ⟨operation, answer⟩ := y
        cases operation with
        | acquire lock => exact List.mem_cons_self ..
        | release lock => cases hreleased
        | _ => exact lock_mem_of_allowed hallows fun _ => nofun

/-! ## Guarded rules -/

/-- Locks in two phases, and what else `may` says. -/
def Rule.guarded (connectLock : Nat) (may : List Step → Operation → Prop) : Rule (List Step) :=
  .ofHistory fun h operation =>
    (Rule.twoPhase connectLock).allows (lockingAfter connectLock h) operation ∧ may h operation

variable {may : List Step → Operation → Prop} {h : List Step}

theorem guarded_concat {x : Step} :
    (Rule.guarded connectLock may).Allows [] (h ++ [x]) ↔
      (Rule.guarded connectLock may).Allows [] h ∧
        (Rule.guarded connectLock may).allows h x.operation := by
  rw [Rule.allows_concat, Rule.guarded, Rule.after_ofHistory, List.nil_append]

/-- What is guarded is disciplined. -/
theorem disciplined_of_guarded (hall : (Rule.guarded connectLock may).Allows [] h) :
    Disciplined connectLock h := by
  induction h using List.reverseRecOn with
  | nil => exact Rule.allows_nil
  | append_singleton h x ih =>
      obtain ⟨hbefore, hallows, -⟩ := guarded_concat.mp hall
      exact disciplined_concat.mpr ⟨ih hbefore, hallows⟩

/-- Locks may be given back if nothing else speaks against it. -/
theorem guarded_giveBack (hmay : ∀ h lock, may h (.release lock))
    (hall : (Rule.guarded connectLock may).Allows [] h) :
    (Rule.guarded connectLock may).Allows [] (h ++ giveBack (heldAfter h)) := by
  generalize hheld : heldAfter h = held
  induction held generalizing h with
  | nil => simpa [giveBack] using hall
  | cons lock held ih =>
      have hstep : (Rule.guarded connectLock may).Allows [] (h ++ [⟨.release lock, ()⟩]) := by
        refine guarded_concat.mpr ⟨hall, ?_, hmay h lock⟩
        change lock ∈ (lockingAfter connectLock h).held
        rw [held_lockingAfter, hheld]
        exact List.mem_cons_self ..
      have hrest : heldAfter (h ++ [⟨.release lock, ()⟩]) = held := by
        rw [heldAfter_concat, hheld]
        exact List.erase_cons_head ..
      have := ih hstep hrest
      rwa [List.append_assoc] at this

/-- A program that keeps to a guarded rule, and holds nothing in the end, is bracketed. -/
theorem bracketed_of_guarded {α : Type} {p : Program α} {returns : List Step → α → Prop}
    (hp : p.Obeys (.guarded connectLock may) returns [])
    (hreturns : ∀ h a, returns h a → heldAfter h = []) : p.Bracketed := by
  refine Program.Obeys.mono heldAfter (fun h x => (heldAfter_concat h x).symm) ?_ hreturns hp rfl
  intro h operation hallows
  rw [← held_lockingAfter connectLock]
  exact bracketing_of_twoPhase hallows.1

end

theorem mem_next_bracketing {held : List Lock} {x : Step} {lock : Lock}
    (h : lock ∈ Rule.bracketing.next held x) : lock ∈ held ∨ x.operation = .acquire lock := by
  obtain ⟨operation, answer⟩ := x
  cases operation with
  | acquire lock' =>
      rcases List.mem_cons.mp h with rfl | h
      · exact .inr rfl
      · exact .inl h
  | release lock' => exact .inl (List.mem_of_mem_erase h)
  | _ => exact .inl h

theorem mem_next_of_mem {held : List Lock} {x : Step} {lock : Lock} (h : lock ∈ held)
    (hx : x.operation ≠ .release lock) : lock ∈ Rule.bracketing.next held x := by
  obtain ⟨operation, answer⟩ := x
  cases operation with
  | acquire lock' => exact List.mem_cons_of_mem _ h
  | release lock' =>
      have hne : lock ≠ lock' := fun heq => hx (congrArg Operation.release heq.symm)
      exact (List.mem_erase_of_ne hne).mpr h
  | _ => exact h

/-- Who holds a lock and does not give it back still holds it. -/
theorem mem_heldAfter_append {g h : List Step} {lock : Lock} (hl : lock ∈ heldAfter g)
    (hh : ∀ x ∈ h, x.operation ≠ .release lock) : lock ∈ heldAfter (g ++ h) := by
  induction h using List.reverseRecOn with
  | nil => rwa [List.append_nil]
  | append_singleton h x ih =>
      rw [← List.append_assoc, heldAfter_concat]
      exact mem_next_of_mem (ih fun y hy => hh y (List.mem_append_left _ hy)) (hh x (by simp))

/-- While a task holds a lock, nobody takes it. -/
theorem not_acquire_of_held {events later : List Event} {lock : Lock} {k : Nat}
    (hx : Exclusive (events ++ later)) (hl : lock ∈ heldAfter (stepsOf k events))
    (hlater : ∀ x ∈ stepsOf k later, x.operation ≠ .release lock) :
    ∀ e ∈ later, e.step.operation ≠ .acquire lock := by
  intro e he hacquire
  obtain ⟨before, after, rfl⟩ := List.append_of_mem he
  have hprefix : events ++ before ++ [e] <+: events ++ (before ++ e :: after) := by
    rw [List.append_assoc, List.prefix_append_right_inj, List.prefix_append_right_inj]
    exact ⟨after, rfl⟩
  refine hx _ e hprefix lock hacquire k ?_
  rw [stepsOf_append]
  refine mem_heldAfter_append hl fun x hx => hlater x ?_
  rw [stepsOf_append]
  exact List.mem_append_left _ hx

/-- Two tasks never hold one lock.  By symmetry, only the one that makes the last step matters. -/
theorem holder_unique {events : List Event} (hx : Exclusive events) {lock : Lock} {j k : Nat}
    (hj : lock ∈ heldAfter (stepsOf j events)) (hk : lock ∈ heldAfter (stepsOf k events)) :
    j = k := by
  induction events using List.reverseRecOn generalizing j k with
  | nil => cases hj
  | append_singleton events e ih =>
      obtain ⟨hbefore, htaken⟩ := exclusive_concat.mp hx
      obtain ⟨i, x⟩ := e
      have hstep : ∀ {j k}, i = j → i ≠ k →
          lock ∈ heldAfter (stepsOf j (events ++ [⟨i, x⟩])) →
          lock ∈ heldAfter (stepsOf k (events ++ [⟨i, x⟩])) → j = k := by
        rintro j k rfl hne hj hk
        rw [stepsOf_concat_other _ hne] at hk
        rw [stepsOf_concat_same, heldAfter_concat] at hj
        rcases mem_next_bracketing hj with hj | hacquire
        · exact ih hbefore hj hk
        · exact absurd hk (htaken lock hacquire k)
      by_cases hij : i = j
      · by_cases hik : i = k
        · exact hij.symm.trans hik
        · exact hstep hij hik hj hk
      · by_cases hik : i = k
        · exact (hstep hik hij hk hj).symm
        · rw [stepsOf_concat_other _ hij] at hj
          rw [stepsOf_concat_other _ hik] at hk
          exact ih hbefore hj hk

theorem Disciplined.before {connectLock k' : Nat} {events : List Event} {x : Step}
    (hd : ∀ k, Disciplined connectLock (stepsOf k (events ++ [⟨k', x⟩])))
    (k : Nat) : Disciplined connectLock (stepsOf k events) := by
  have hk := hd k
  rw [stepsOf_append] at hk
  exact hk.of_append

/-- Since a task took the lock that it holds, nobody else did anything under it. -/
theorem exists_of_held {connectLock : Nat} {events : List Event} (hx : Exclusive events)
    (hd : ∀ k, Disciplined connectLock (stepsOf k events)) {k : Nat} {lock : Lock}
    (hl : lock ∈ heldAfter (stepsOf k events)) :
    ∃ before after, events = before ++ ⟨k, .acquire lock, ()⟩ :: after ∧
      ∀ e ∈ after, e.step.operation.lock connectLock = lock → e.task = k := by
  induction events using List.reverseRecOn with
  | nil => cases hl
  | append_singleton events e ih =>
      obtain ⟨j, x⟩ := e
      obtain ⟨hbefore, htaken⟩ := exclusive_concat.mp hx
      have hdj := hd j
      rw [stepsOf_concat_same] at hdj
      obtain ⟨-, hallows⟩ := disciplined_concat.mp hdj
      have hlater : lock ∈ heldAfter (stepsOf k events) →
          (x.operation.lock connectLock = lock → j = k) →
          ∃ before after, events ++ [⟨j, x⟩] = before ++ ⟨k, .acquire lock, ()⟩ :: after ∧
            ∀ e ∈ after, e.step.operation.lock connectLock = lock → e.task = k := by
        intro hheld hown
        obtain ⟨before, after, rfl, hafter⟩ := ih hbefore (Disciplined.before hd) hheld
        refine ⟨before, after ++ [⟨j, x⟩], by simp, fun e he => ?_⟩
        rcases List.mem_append.mp he with he | he
        · exact hafter e he
        · obtain rfl := List.mem_singleton.mp he
          exact hown
      by_cases hjk : j = k
      · subst hjk
        rw [stepsOf_concat_same, heldAfter_concat] at hl
        rcases mem_next_bracketing hl with hheld | hacquire
        · exact hlater hheld fun _ => rfl
        · obtain ⟨operation, answer⟩ := x
          obtain rfl : operation = .acquire lock := hacquire
          exact ⟨events, [], rfl, by simp⟩
      · rw [stepsOf_concat_other _ hjk] at hl
        refine hlater hl fun heq => ?_
        by_cases hacquire : ∃ lock', x.operation = .acquire lock'
        · obtain ⟨lock', hacquire⟩ := hacquire
          rw [hacquire] at heq
          obtain rfl : lock' = lock := heq
          exact absurd hl (htaken lock' hacquire k)
        · have hown := lock_mem_of_allowed hallows (not_exists.mp hacquire)
          rw [heq] at hown
          exact holder_unique hbefore hown hl

/-- No task takes a lock twice. -/
theorem not_disciplined_of_acquire_twice {connectLock : Nat} {g h : List Step} {lock : Lock} :
    ¬ Disciplined connectLock (g ++ ⟨.acquire lock, ()⟩ :: h ++ [⟨.acquire lock, ()⟩]) := by
  intro hd
  obtain ⟨hbefore, hreleased, hnot⟩ := disciplined_concat.mp hd
  rw [held_lockingAfter] at hnot
  have hmem : (⟨.acquire lock, ()⟩ : Step) ∈ g ++ ⟨.acquire lock, ()⟩ :: h := by simp
  exact hnot (lock_mem_of_mem hbefore hreleased hmem)

theorem acquire_once {connectLock : Nat} {before before' after after' : List Event} {k : Nat}
    {lock : Lock} (hd : Disciplined connectLock
      (stepsOf k (before ++ ⟨k, .acquire lock, ()⟩ :: after)))
    (heq : before ++ ⟨k, .acquire lock, ()⟩ :: after = before' ++ ⟨k, .acquire lock, ()⟩ :: after') :
    before = before' := by
  have htwice : ∀ first second later, ¬ Disciplined connectLock (stepsOf k
      (first ++ ⟨k, .acquire lock, ()⟩ :: second ++ ⟨k, .acquire lock, ()⟩ :: later)) := by
    intro first second later hd
    have hsteps : stepsOf k
        (first ++ ⟨k, .acquire lock, ()⟩ :: second ++ ⟨k, .acquire lock, ()⟩ :: later) =
        (stepsOf k first ++ ⟨.acquire lock, ()⟩ :: stepsOf k second ++ [⟨.acquire lock, ()⟩]) ++
          stepsOf k later := by
      simp [stepsOf]
    rw [hsteps] at hd
    exact not_disciplined_of_acquire_twice hd.of_append
  rcases List.append_eq_append_iff.mp heq with ⟨middle, rfl, hmiddle⟩ | ⟨middle, rfl, hmiddle⟩
  · cases middle with
    | nil => rw [List.append_nil]
    | cons e middle =>
        obtain ⟨rfl, -⟩ := List.cons_eq_cons.mp hmiddle
        rw [heq] at hd
        exact (htwice _ _ _ hd).elim
  · cases middle with
    | nil => rw [List.append_nil]
    | cons e middle =>
        obtain ⟨rfl, -⟩ := List.cons_eq_cons.mp hmiddle
        exact (htwice _ _ _ hd).elim

/-! ## What a task knows -/

/-- A part of the memory that is accessed under one lock. -/
structure Cell (connectLock : Nat) (β : Type) where
  read : Memory → β
  lock : Lock
  /-- What the part is after a step that reads or writes it. -/
  shows? : Step → Option β
  lock_of_shows? : ∀ (x : Step) (b : β), shows? x = some b →
    x.operation.lock connectLock = lock
  not_acquire : ∀ (x : Step) (b : β) (l : Lock), shows? x = some b → x.operation ≠ .acquire l
  not_release : ∀ (x : Step) (b : β) (l : Lock), shows? x = some b → x.operation ≠ .release l
  read_of_shows? : ∀ (m : Memory) (x : Step) (b : β), m.Tells x → shows? x = some b →
    read (m.after x) = b
  read_of_shows?_none : ∀ (m : Memory) (x : Step), shows? x = none → read (m.after x) = read m

namespace Cell

variable {connectLock : Nat} {β : Type} (c : Cell connectLock β)

/-- What a task knows after one more step. -/
def learn (known : Option β) (x : Step) : Option β :=
  match x.operation with
  | .release lock => if lock = c.lock then none else known
  | _ => (c.shows? x).or known

/-- What a task knows after some steps. -/
def known (h : List Step) : Option β := h.foldl c.learn none

theorem known_concat (h : List Step) (x : Step) : c.known (h ++ [x]) = c.learn (c.known h) x := by
  simp [known]

variable {c}

/-- A step that shows the part makes it known. -/
theorem known_of_shows? {h : List Step} {x : Step} {b : β} (hx : c.shows? x = some b) :
    c.known (h ++ [x]) = some b := by
  rw [known_concat, learn]
  split
  · next lock hop => exact absurd hop (c.not_release x b lock hx)
  · rw [hx, Option.some_or]

/-- Knowledge is what the last step shows, or what was known before. -/
theorem learn_eq_some {known : Option β} {x : Step} {b : β} (h : c.learn known x = some b) :
    x.operation ≠ .release c.lock ∧
      (c.shows? x = some b ∨ c.shows? x = none ∧ known = some b) := by
  unfold learn at h
  split at h
  · next lock hop =>
      split at h
      · cases h
      · next hne =>
          refine ⟨fun heq => hne (Operation.release.inj (hop.symm.trans heq)), .inr ⟨?_, h⟩⟩
          cases hshows : c.shows? x with
          | none => rfl
          | some b' => exact absurd hop (c.not_release x b' lock hshows)
  · next hnot =>
      refine ⟨hnot _, ?_⟩
      cases hshows : c.shows? x with
      | none =>
          rw [hshows] at h
          exact .inr ⟨rfl, h⟩
      | some b' =>
          rw [hshows] at h
          exact .inl h

/-- Knowledge needs the lock. -/
theorem lock_mem_of_known {h : List Step} {b : β} (hd : Disciplined connectLock h)
    (hknown : c.known h = some b) : c.lock ∈ heldAfter h := by
  induction h using List.reverseRecOn generalizing b with
  | nil => cases hknown
  | append_singleton h x ih =>
      obtain ⟨hbefore, hallows⟩ := disciplined_concat.mp hd
      rw [known_concat] at hknown
      obtain ⟨hne, hcases⟩ := learn_eq_some hknown
      have hheld : c.lock ∈ heldAfter h := by
        rcases hcases with hshows | ⟨-, hprev⟩
        · have hl := lock_mem_of_allowed hallows fun lock => c.not_acquire x b lock hshows
          rwa [c.lock_of_shows? x b hshows] at hl
        · exact ih hbefore hprev
      obtain ⟨operation, answer⟩ := x
      rw [heldAfter_concat]
      cases operation with
      | acquire lock => exact List.mem_cons_of_mem _ hheld
      | release lock =>
          refine (List.mem_erase_of_ne fun heq => hne ?_).mpr hheld
          rw [heq]
      | _ => exact hheld

/-- What a task knows is so if nobody else does anything. -/
theorem read_of_runs {h : List Step} {m m' : Memory} (hruns : m.Runs h m') {b : β}
    (hknown : c.known h = some b) : c.read m' = b := by
  induction h using List.reverseRecOn generalizing m' b with
  | nil => cases hknown
  | append_singleton h x ih =>
      obtain ⟨middle, hbefore, htells, rfl⟩ := Memory.runs_concat.mp hruns
      rw [known_concat] at hknown
      rcases (learn_eq_some hknown).2 with hshows | ⟨hshows, hprev⟩
      · exact c.read_of_shows? middle x b htells hshows
      · rw [c.read_of_shows?_none middle x hshows]
        exact ih hbefore hprev

/-- What a task knows is so, whatever others do meanwhile: they would have to hold the same lock
to change it. -/
theorem read_of_known {events : List Event} (hx : Exclusive events)
    (hd : ∀ k, Disciplined connectLock (stepsOf k events)) {start m : Memory}
    (hruns : start.Runs (events.map Event.step) m) {k : Nat} {b : β}
    (hknown : c.known (stepsOf k events) = some b) : c.read m = b := by
  induction events using List.reverseRecOn generalizing m b with
  | nil => cases hknown
  | append_singleton events e ih =>
      obtain ⟨i, x⟩ := e
      obtain ⟨hbefore, -⟩ := exclusive_concat.mp hx
      have hdi := hd i
      rw [stepsOf_concat_same] at hdi
      have hdbefore : ∀ k, Disciplined connectLock (stepsOf k events) := by
        intro k
        have hdk := hd k
        rw [stepsOf_append] at hdk
        exact hdk.of_append
      rw [List.map_append] at hruns
      obtain ⟨m', hrunsBefore, htells, rfl⟩ := Memory.runs_concat.mp hruns
      by_cases hik : i = k
      · subst hik
        rw [stepsOf_concat_same, known_concat] at hknown
        rcases (learn_eq_some hknown).2 with hshows | ⟨hshows, hprev⟩
        · exact c.read_of_shows? m' x b htells hshows
        · rw [c.read_of_shows?_none m' x hshows]
          exact ih hbefore hdbefore hrunsBefore hprev
      · rw [stepsOf_concat_other _ hik] at hknown
        have hread := ih hbefore hdbefore hrunsBefore hknown
        cases hshows : c.shows? x with
        | none => rw [c.read_of_shows?_none m' x hshows, hread]
        | some b' =>
            have hl := lock_mem_of_allowed (disciplined_concat.mp hdi).2
              fun lock => c.not_acquire x b' lock hshows
            rw [c.lock_of_shows? x b' hshows] at hl
            exact absurd (holder_unique hbefore hl (lock_mem_of_known (hdbefore k) hknown)) hik

end Cell

section

variable (connectLock connection : Nat)

/-- What a step shows of the client of a connection. -/
def Step.client? : Step → Option (Option Client)
  | ⟨.getClient n, client⟩ => if n = connection then some client else none
  | ⟨.setClient n client, _⟩ => if n = connection then some client else none
  | _ => none

/-- What a step shows of what the next login of a connection uses. -/
def Step.login? : Step → Option LoginState
  | ⟨.getLogin n, login⟩ => if n = connection then some login else none
  | ⟨.setLogin n login, _⟩ => if n = connection then some login else none
  | _ => none

variable {connection}

theorem client?_eq_some {x : Step} {client : Option Client}
    (h : x.client? connection = some client) :
    x = ⟨.getClient connection, client⟩ ∨ x = ⟨.setClient connection client, ()⟩ := by
  obtain ⟨operation, answer⟩ := x
  cases operation with
  | getClient n =>
      obtain ⟨rfl, heq⟩ := Option.ite_none_right_eq_some.mp h
      cases heq
      exact .inl rfl
  | setClient n client' =>
      obtain ⟨rfl, heq⟩ := Option.ite_none_right_eq_some.mp h
      cases heq
      exact .inr rfl
  | _ => cases h

theorem login?_eq_some {x : Step} {login : LoginState} (h : x.login? connection = some login) :
    x = ⟨.getLogin connection, login⟩ ∨ x = ⟨.setLogin connection login, ()⟩ := by
  obtain ⟨operation, answer⟩ := x
  cases operation with
  | getLogin n =>
      obtain ⟨rfl, heq⟩ := Option.ite_none_right_eq_some.mp h
      cases heq
      exact .inl rfl
  | setLogin n login' =>
      obtain ⟨rfl, heq⟩ := Option.ite_none_right_eq_some.mp h
      cases heq
      exact .inr rfl
  | _ => cases h

/-- A step that shows nothing of the client leaves it. -/
theorem client_after {x : Step} (h : x.client? connection = none) (m : Memory) :
    (m.after x).client connection = m.client connection := by
  obtain ⟨operation, answer⟩ := x
  cases operation with
  | setClient n client =>
      have hne : connection ≠ n := by
        rintro rfl
        simp [Step.client?] at h
      exact Memory.client_setClient_other m client hne
  | setLogin n login => exact Memory.client_setLogin m n login connection
  | _ => rfl

theorem login_after {x : Step} (h : x.login? connection = none) (m : Memory) :
    (m.after x).login connection = m.login connection := by
  obtain ⟨operation, answer⟩ := x
  cases operation with
  | setClient n client => exact Memory.login_setClient m n client connection
  | setLogin n login =>
      have hne : connection ≠ n := by
        rintro rfl
        simp [Step.login?] at h
      exact Memory.login_setLogin_other m login hne
  | _ => rfl

variable (connection) in
/-- A step leaves the client, or replaces it. -/
theorem client_after_cases (m : Memory) (x : Step) :
    (m.after x).client connection = m.client connection ∨
      ∃ client, x.operation = .setClient connection client ∧
        (m.after x).client connection = client := by
  cases h : x.client? connection with
  | none => exact .inl (client_after h m)
  | some client =>
      rcases client?_eq_some h with rfl | rfl
      · exact .inl rfl
      · exact .inr ⟨client, rfl, Memory.client_setClient m connection client⟩

variable (connection) in
/-- A step leaves what the next login uses, or replaces it. -/
theorem login_after_cases (m : Memory) (x : Step) :
    (m.after x).login connection = m.login connection ∨
      ∃ login, x.operation = .setLogin connection login ∧
        (m.after x).login connection = login := by
  cases h : x.login? connection with
  | none => exact .inl (login_after h m)
  | some login =>
      rcases login?_eq_some h with rfl | rfl
      · exact .inl rfl
      · exact .inr ⟨login, rfl, Memory.login_setLogin m connection login⟩

variable (connection)

/-- The client of a connection. -/
def clientCell : Cell connectLock (Option Client) where
  read m := m.client connection
  lock := .connect connectLock
  shows? x := x.client? connection
  lock_of_shows? x client h := by
    rcases client?_eq_some h with rfl | rfl <;> rfl
  not_acquire x client lock h := by
    rcases client?_eq_some h with rfl | rfl <;> exact fun heq => nomatch heq
  not_release x client lock h := by
    rcases client?_eq_some h with rfl | rfl <;> exact fun heq => nomatch heq
  read_of_shows? m x client htells h := by
    rcases client?_eq_some h with rfl | rfl
    · exact htells.symm
    · exact Memory.client_setClient m connection client
  read_of_shows?_none m x h := client_after h m

/-- What the next login of a connection uses. -/
def loginCell : Cell connectLock LoginState where
  read m := m.login connection
  lock := .credentials connection
  shows? x := x.login? connection
  lock_of_shows? x login h := by
    rcases login?_eq_some h with rfl | rfl <;> rfl
  not_acquire x login lock h := by
    rcases login?_eq_some h with rfl | rfl <;> exact fun heq => nomatch heq
  not_release x login lock h := by
    rcases login?_eq_some h with rfl | rfl <;> exact fun heq => nomatch heq
  read_of_shows? m x login htells h := by
    rcases login?_eq_some h with rfl | rfl
    · exact htells.symm
    · exact Memory.login_setLogin m connection login
  read_of_shows?_none m x h := login_after h m

end

end VcenterAccess
