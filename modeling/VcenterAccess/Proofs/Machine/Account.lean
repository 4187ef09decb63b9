import VcenterAccess.Proofs.Machine.Moves

/-!
# A trace accounts for the machine

Along every schedule of bracketed programs, the trace says how the machine came to
its state (`account_run`): tasks and results are where the steps of their programs
lead, the memory is what all steps made of it, and no lock was taken while somebody
held it (`Exclusive`).

The invariant that carries the exclusion is that whoever holds a lock by its steps
has it in the machine (`Task.Accounted.holds`), and whoever waits for a lock is served
by it, so that a lock can only be taken when nobody else holds it.
-/

namespace VcenterAccess

/-- No lock is taken while somebody holds it. -/
def Exclusive (events : List Event) : Prop :=
  ∀ before e, before ++ [e] <+: events → ∀ lock, e.step.operation = .acquire lock →
    ∀ k, lock ∉ heldAfter (stepsOf k before)

theorem exclusive_nil : Exclusive [] := by
  intro before e h
  simp at h

theorem Exclusive.of_append {events later : List Event} (h : Exclusive (events ++ later)) :
    Exclusive events :=
  fun before e he => h before e (he.trans (List.prefix_append ..))

theorem exclusive_concat {events : List Event} {e : Event} :
    Exclusive (events ++ [e]) ↔ Exclusive events ∧
      ∀ lock, e.step.operation = .acquire lock → ∀ k, lock ∉ heldAfter (stepsOf k events) := by
  constructor
  · intro h
    exact ⟨h.of_append, h events e List.prefix_rfl⟩
  · rintro ⟨h, he⟩ before e' he'
    rcases List.prefix_concat_iff.mp he' with heq | he'
    · obtain ⟨rfl, hee⟩ := List.append_inj' heq rfl
      cases hee
      exact he
    · exact h before e' he'

/-- A program performs some steps, and gives its locks back if it is abandoned where it
would wait after them. -/
def Program.Performs {α : Type} (p : Program α) (h : List Step) : Prop :=
  ∃ g q, p.Path g q ∧ (h = g ∨ ∃ operation next, q = .perform operation next ∧
    operation.isAwaited = true ∧ h = g ++ giveBack (heldAfter g))

theorem Program.Path.performs {α : Type} {p q : Program α} {h : List Step} (hp : p.Path h q) :
    p.Performs h :=
  ⟨h, q, hp, .inl rfl⟩

/-- The rule that also lets locks be given back at any time. -/
def Rule.lenient {σ : Type} (r : Rule σ) : Rule σ where
  next := r.next
  allows s operation := r.allows s operation ∨ ∃ lock, operation = .release lock

/-- Whatever a program performs is allowed if locks may be given back at any time. -/
theorem Program.Obeys.performs {σ α : Type} {r : Rule σ} {returns : σ → α → Prop} {s : σ}
    {p : Program α} {h : List Step} (hp : p.Obeys r returns s) (hh : p.Performs h) :
    r.lenient.Allows s h := by
  obtain ⟨g, q, hpath, hh⟩ := hh
  have hg : r.lenient.Allows s g := fun before x hx => .inl (hp.along hpath before x hx)
  rcases hh with rfl | ⟨-, -, -, -, rfl⟩
  · exact hg
  · generalize heldAfter g = held
    induction held using List.reverseRecOn with
    | nil => simpa [giveBack] using hg
    | append_singleton held lock ih =>
        rw [giveBack, List.map_append, ← List.append_assoc]
        exact Rule.allows_concat.mpr ⟨ih, .inr ⟨lock, rfl⟩⟩

/-- Whatever a program performs is of the kind that it uses if giving back locks is. -/
theorem Program.Uses.performs {α : Type} {may : Operation → Prop} {p : Program α} {h : List Step}
    (hp : p.Uses may) (hgive : ∀ lock, may (.release lock)) (hh : p.Performs h) :
    ∀ x ∈ h, may x.operation := by
  obtain ⟨g, q, hpath, hh⟩ := hh
  have hg := hp.along hpath
  rcases hh with rfl | ⟨-, -, -, -, rfl⟩
  · exact hg
  · intro x hx
    rcases List.mem_append.mp hx with hx | hx
    · exact hg x hx
    · obtain ⟨lock, -, rfl⟩ := List.mem_map.mp hx
      exact hgive lock

/-- What the trace says about a task. -/
structure Task.Accounted {ω α : Type} (programs : List (Program α)) (events : List Event)
    (s : Shared ω) (t : Task α) : Prop where
  path : ∃ p, programs[t.number]? = some p ∧ p.Path (stepsOf t.number events) t.program
  held : t.held = heldAfter (stepsOf t.number events)
  /-- What a task holds, it has. -/
  holds : ∀ lock ∈ t.held, (s.lock lock).holder? = some t.number
  /-- Who waits for a lock is served. -/
  served : ∀ lock next, t.waits = true → t.program = .perform (.acquire lock) next →
    (s.lock lock).Serves t.number

namespace Task.Accounted

variable {ω α : Type} {programs : List (Program α)} {events : List Event} {s s' : Shared ω}
  {t : Task α}

/-- What others do leaves the account of a task. -/
theorem others (h : t.Accounted programs events s) {later : List Event}
    (hlater : ∀ e ∈ later, e.task ≠ t.number) (hspares : s.Spares s' t.number) :
    t.Accounted programs (events ++ later) s' := by
  have hsteps : stepsOf t.number (events ++ later) = stepsOf t.number events := by
    rw [stepsOf_append, stepsOf_eq_nil hlater, List.append_nil]
  constructor
  · rw [hsteps]
    exact h.path
  · rw [hsteps]
    exact h.held
  · exact fun lock hl => (hspares lock).1 (h.holds lock hl)
  · exact fun lock next hw hp => (hspares lock).2 (h.served lock next hw hp)

/-- The rest of a bracketed program is bracketed, and no lock is held twice. -/
theorem bracketed (h : t.Accounted programs events s) (hb : ∀ p ∈ programs, p.Bracketed) :
    t.program.Obeys .bracketing (fun held _ => held = []) t.held ∧ t.held.Nodup := by
  obtain ⟨p, hp, hpath⟩ := h.path
  have hobeys := hb p (List.mem_of_getElem? hp)
  rw [h.held]
  exact ⟨hobeys.rest hpath, nodup_heldAfter (hobeys.along hpath)⟩

/-- Who stops waiting keeps what it holds, and spares the others. -/
theorem stopWaiting (h : t.Accounted programs events s) (hb : ∀ p ∈ programs, p.Bracketed)
    (o : Outside ω) :
    (∀ lock ∈ t.held, ((t.stopWaiting o s).lock lock).holder? = some t.number) ∧
      ∀ k, k ≠ t.number → s.Spares (t.stopWaiting o s) k := by
  unfold Task.stopWaiting
  split
  · next lock next hw hp =>
      have hobeys := (h.bracketed hb).1
      rw [hp] at hobeys
      refine ⟨fun lock' hl => ?_, fun k hk => ?_⟩
      · have hne : lock' ≠ lock := by
          rintro rfl
          exact hobeys.1 hl
        rw [Shared.lock_leave_of_ne hne]
        exact h.holds lock' hl
      · exact Shared.spares_leave hk (h.served lock next hw hp)
  · exact ⟨h.holds, fun k _ => .of_lock rfl⟩
  · exact ⟨h.holds, fun k _ => .of_lock rfl⟩

end Task.Accounted

theorem exists_of_isInterruptible {α : Type} {t : Task α} (h : t.isInterruptible = true) :
    ∃ operation next, t.program = .perform operation next ∧ operation.isAwaited = true := by
  obtain ⟨number, program, waits, held⟩ := t
  cases program with
  | done a => cases h
  | perform operation next => exact ⟨operation, next, rfl, h⟩

namespace Machine

variable {ω α : Type} {o : Outside ω}

/-- What the trace says about the machine, if the tasks are numbered after their
programs. -/
structure Account (start : Memory) (programs : List (Program α)) (trace : List Event)
    (m : Machine ω α) : Prop where
  /-- No two tasks have one number. -/
  distinct : (m.tasks.map Task.number).Nodup
  task : ∀ t ∈ m.tasks, t.Accounted programs trace m.shared
  number_lt : ∀ t ∈ m.tasks, t.number < m.begun
  /-- Every step is one of a task that has begun. -/
  begun : ∀ e ∈ trace, e.task < m.begun
  performed : ∀ (k : Nat) (p : Program α), programs[k]? = some p → p.Performs (stepsOf k trace)
  result : ∀ r ∈ m.results, ∃ p : Program α, programs[r.1]? = some p ∧
    p.Path (stepsOf r.1 trace) (.done r.2)
  result_lt : ∀ r ∈ m.results, r.1 < m.begun
  /-- A task with a result is no task any more. -/
  finished : ∀ r ∈ m.results, ∀ t ∈ m.tasks, t.number ≠ r.1
  /-- Who is no task holds nothing. -/
  free : ∀ k, (∀ t ∈ m.tasks, t.number ≠ k) → heldAfter (stepsOf k trace) = []
  memory : start.Runs (trace.map Event.step) m.shared.memory
  exclusive : Exclusive trace

theorem account_idle (memory : Memory) (outside : ω) (programs : List (Program α)) :
    Account memory programs [] (idle memory outside) where
  distinct := List.nodup_nil
  task := by simp [idle]
  number_lt := by simp [idle]
  begun := by simp
  performed := fun _ p _ => (Program.Path.refl p).performs
  result := by simp [idle]
  result_lt := by simp [idle]
  finished := by simp [idle]
  free := by simp [heldAfter]
  memory := rfl
  exclusive := exclusive_nil

namespace Account

variable {start : Memory} {programs : List (Program α)} {trace : List Event} {m : Machine ω α}
  {number : Nat} {t : Task α}

/-- Whoever holds a lock by its steps has it. -/
theorem holder (h : Account start programs trace m) {k : Nat} {lock : Lock}
    (hl : lock ∈ heldAfter (stepsOf k trace)) : (m.shared.lock lock).holder? = some k := by
  by_cases hk : ∀ t ∈ m.tasks, t.number ≠ k
  · rw [h.free k hk] at hl
    cases hl
  · obtain ⟨t, ht, rfl⟩ : ∃ t ∈ m.tasks, t.number = k := by simpa using hk
    have hacc := h.task t ht
    exact hacc.holds lock (hacc.held ▸ hl)

/-! ## Moves -/

theorem begin (h : Account start programs trace m) {p : Program α}
    (hp : programs[m.begun]? = some p) : Account start programs trace (m.begin p) := by
  have hnew : stepsOf m.begun trace = [] :=
    stepsOf_eq_nil fun e he => Nat.ne_of_lt (h.begun e he)
  have htask : ∀ t ∈ (m.begin p).tasks, t ∈ m.tasks ∨ t = { number := m.begun, program := p } :=
    fun t ht => (List.mem_append.mp ht).imp id List.mem_singleton.mp
  constructor
  · simp only [Machine.begin, List.map_append, List.map_cons, List.map_nil]
    refine List.nodup_append.mpr ⟨h.distinct, by simp, ?_⟩
    rintro a ha b hb
    obtain ⟨t, ht, rfl⟩ := List.mem_map.mp ha
    obtain rfl := List.mem_singleton.mp hb
    exact Nat.ne_of_lt (h.number_lt t ht)
  · intro t ht
    rcases htask t ht with ht | rfl
    · have hacc := h.task t ht
      exact ⟨hacc.path, hacc.held, hacc.holds, hacc.served⟩
    · refine ⟨⟨p, hp, ?_⟩, ?_, by simp, by simp⟩
      · rw [hnew]
        exact .refl p
      · rw [hnew]
        rfl
  · intro t ht
    rcases htask t ht with ht | rfl
    · exact Nat.lt_succ_of_lt (h.number_lt t ht)
    · exact Nat.lt_succ_self _
  · exact fun e he => Nat.lt_succ_of_lt (h.begun e he)
  · exact h.performed
  · exact h.result
  · exact fun r hr => Nat.lt_succ_of_lt (h.result_lt r hr)
  · intro r hr t ht
    rcases htask t ht with ht | rfl
    · exact h.finished r hr t ht
    · exact (Nat.ne_of_lt (h.result_lt r hr)).symm
  · intro k hk
    exact h.free k fun t ht => hk t (List.mem_append_left _ ht)
  · exact h.memory
  · exact h.exclusive

/-- A task ends with its result. -/
theorem done (h : Account start programs trace m) (hb : ∀ p ∈ programs, p.Bracketed) {a : α}
    (ht : m.task? t.number = some t) (hp : t.program = .done a) :
    Account start programs trace
      { m with tasks := m.others t.number, results := m.results ++ [(t.number, a)] } := by
  obtain ⟨hmem, -⟩ := mem_of_task? ht
  have hacc := h.task t hmem
  have hheld : t.held = [] := by
    have hobeys := (hacc.bracketed hb).1
    rw [hp] at hobeys
    exact hobeys
  have hresult : ∀ r ∈ m.results ++ [(t.number, a)], r ∈ m.results ∨ r = (t.number, a) :=
    fun r hr => (List.mem_append.mp hr).imp id List.mem_singleton.mp
  constructor
  · exact h.distinct.sublist (List.filter_sublist.map _)
  · exact fun u hu => h.task u (mem_others.mp hu).1
  · exact fun u hu => h.number_lt u (mem_others.mp hu).1
  · exact h.begun
  · exact h.performed
  · intro r hr
    rcases hresult r hr with hr | rfl
    · exact h.result r hr
    · obtain ⟨p, hprogram, hpath⟩ := hacc.path
      exact ⟨p, hprogram, hp ▸ hpath⟩
  · intro r hr
    rcases hresult r hr with hr | rfl
    · exact h.result_lt r hr
    · exact h.number_lt t hmem
  · intro r hr u hu
    rcases hresult r hr with hr | rfl
    · exact h.finished r hr u (mem_others.mp hu).1
    · exact (mem_others.mp hu).2
  · intro k hk
    by_cases hkt : k = t.number
    · rw [hkt, ← hacc.held, hheld]
    · refine h.free k fun u hu heq => ?_
      exact hk u (mem_others.mpr ⟨hu, heq ▸ hkt⟩) heq
  · exact h.memory
  · exact h.exclusive

/-- Steps of one task leave the steps of the others. -/
theorem stepsOf_of_others {later : List Event} {k : Nat} (hlater : ∀ e ∈ later, e.task = number)
    (hk : k ≠ number) : stepsOf k (trace ++ later) = stepsOf k trace := by
  have hnil : stepsOf k later = [] := stepsOf_eq_nil fun e he => (hlater e he).trans_ne hk.symm
  rw [stepsOf_append, hnil, List.append_nil]

/-- Something becomes of a task, and all others are spared. -/
theorem replace (h : Account start programs trace m) (ht : m.task? number = some t)
    {t' : Task α} {shared : Shared ω} {later : List Event} (hnumber : t'.number = number)
    (hlater : ∀ e ∈ later, e.task = number)
    (hspares : ∀ k, k ≠ number → m.shared.Spares shared k)
    (hacc : t'.Accounted programs (trace ++ later) shared)
    (hmemory : m.shared.memory.Runs (later.map Event.step) shared.memory)
    (hexclusive : Exclusive (trace ++ later)) :
    Account start programs (trace ++ later)
      { m with shared, tasks := m.replace number t' } := by
  obtain ⟨hmem, rfl⟩ := mem_of_task? ht
  have hlt := h.number_lt t hmem
  constructor
  · rw [map_number_replace m hnumber]
    exact h.distinct
  · intro u hu
    rcases mem_replace hu with rfl | ⟨hu, hne⟩
    · exact hacc
    · exact (h.task u hu).others (fun e he => (hlater e he).trans_ne hne.symm) (hspares _ hne)
  · intro u hu
    rcases mem_replace hu with rfl | ⟨hu, -⟩
    · exact hnumber ▸ hlt
    · exact h.number_lt u hu
  · intro e he
    rcases List.mem_append.mp he with he | he
    · exact h.begun e he
    · exact hlater e he ▸ hlt
  · intro k p hp
    by_cases hk : k = t.number
    · obtain ⟨p', hp', hpath⟩ := hacc.path
      rw [hnumber, ← hk, hp] at hp'
      cases hp'
      rw [hnumber, ← hk] at hpath
      exact hpath.performs
    · rw [stepsOf_of_others hlater hk]
      exact h.performed k p hp
  · intro r hr
    rw [stepsOf_of_others hlater (h.finished r hr t hmem).symm]
    exact h.result r hr
  · exact h.result_lt
  · intro r hr u hu
    rcases mem_replace hu with rfl | ⟨hu, -⟩
    · exact hnumber ▸ h.finished r hr t hmem
    · exact h.finished r hr u hu
  · intro k hk
    have hne : k ≠ t.number := by
      rintro rfl
      refine hk t' ?_ hnumber
      exact List.mem_map.mpr ⟨t, hmem, if_pos rfl⟩
    rw [stepsOf_of_others hlater hne]
    refine h.free k fun u hu heq => hk u ?_ heq
    exact List.mem_map.mpr ⟨u, hu, if_neg (heq.trans_ne hne)⟩
  · rw [List.map_append]
    exact Memory.runs_append.mpr ⟨_, h.memory, hmemory⟩
  · exact hexclusive

/-- A task waits. -/
theorem wait (h : Account start programs trace m) {operation : Operation}
    {next : operation.Answer → Program α} (ht : m.task? t.number = some t)
    (hp : t.program = .perform operation next)
    (hans : (operation.perform o t.number t.waits t.held m.shared).answer = none) :
    Account start programs trace
      { m with
        shared := (operation.perform o t.number t.waits t.held m.shared).shared
        tasks := m.replace t.number { t with waits := true } } := by
  obtain ⟨hmem, -⟩ := mem_of_task? ht
  have hacc := h.task t hmem
  obtain ⟨-, hmemory, hspares⟩ := Operation.perform_none hans
  have hnow : Task.Accounted programs trace
      (operation.perform o t.number t.waits t.held m.shared).shared { t with waits := true } := by
    refine ⟨hacc.path, hacc.held, fun lock hl => (hspares _ lock).1 (hacc.holds lock hl), ?_⟩
    intro lock next' _ hp'
    cases hp.symm.trans hp'
    rw [Operation.shared_perform_acquire]
    exact Shared.serves_queue fun hw => hacc.served lock _ hw hp
  rw [← List.append_nil trace] at hnow ⊢
  exact h.replace ht rfl (by simp) (fun k _ => hspares k) hnow hmemory.symm
    (by rw [List.append_nil]; exact h.exclusive)

/-- A task goes on.  If it gets a lock, that was free or granted to this task, so nobody else had
it. -/
theorem answer (h : Account start programs trace m) (hb : ∀ p ∈ programs, p.Bracketed)
    {operation : Operation} {next : operation.Answer → Program α} {answer : operation.Answer}
    (ht : m.task? t.number = some t) (hp : t.program = .perform operation next)
    (hans : (operation.perform o t.number t.waits t.held m.shared).answer = some answer) :
    Account start programs (trace ++ [⟨t.number, operation, answer⟩])
      { m with
        shared := (operation.perform o t.number t.waits t.held m.shared).shared
        tasks := m.replace t.number
          { t with
            program := next answer
            waits := false
            held := (operation.perform o t.number t.waits t.held m.shared).held } } := by
  obtain ⟨hmem, -⟩ := mem_of_task? ht
  have hacc := h.task t hmem
  obtain ⟨hobeys, hnodup⟩ := hacc.bracketed hb
  rw [hp] at hobeys
  obtain ⟨hheld, htells, hmemory⟩ := Operation.perform_some hans
  have hserves : ∀ lock, operation = .acquire lock → t.waits = true →
      (m.shared.lock lock).Serves t.number := by
    rintro lock rfl hw
    exact hacc.served lock next hw hp
  refine h.replace ht rfl (by simp) ?spares ?now ⟨htells, hmemory.symm⟩ ?exclusive
  case spares =>
    intro k hk
    refine Operation.perform_spares hk ?_
    rintro lock rfl
    exact hacc.holds lock hobeys.1
  case now =>
    refine ⟨?_, ?_, ?_, fun _ _ hw _ => nomatch hw⟩
    · obtain ⟨p, hprogram, hpath⟩ := hacc.path
      rw [hp] at hpath
      exact ⟨p, hprogram, by rw [stepsOf_concat_same]; exact hpath.concat answer⟩
    · rw [stepsOf_concat_same, heldAfter_concat, ← hacc.held]
      exact hheld
    · rw [hheld]
      exact Operation.perform_holds hnodup hacc.holds hserves hans
  case exclusive =>
    refine exclusive_concat.mpr ⟨h.exclusive, ?_⟩
    rintro lock rfl k hl
    have hholder := h.holder hl
    rcases (Operation.perform_acquire_some (hserves lock rfl) hans).2 with hfree | hown
    · rw [hfree] at hholder
      cases hholder
    · obtain rfl : t.number = k := Option.some.inj (hown.symm.trans hholder)
      exact hobeys.1 (hacc.held ▸ hl)

theorem exclusive_giveBack (hexclusive : Exclusive trace) (held : List Lock) :
    Exclusive (trace ++ (giveBack held).map (Event.mk number)) := by
  induction held using List.reverseRecOn with
  | nil => simpa [giveBack] using hexclusive
  | append_singleton held lock ih =>
      rw [giveBack, List.map_append, List.map_append, ← List.append_assoc]
      refine exclusive_concat.mpr ⟨ih, fun lock' h => ?_⟩
      cases h

theorem runs_giveBack (memory : Memory) (held : List Lock) :
    memory.Runs (giveBack held) memory := by
  induction held with
  | nil => rfl
  | cons lock held ih => exact ⟨trivial, ih⟩

/-- A task is abandoned. -/
theorem abandon (h : Account start programs trace m) (hb : ∀ p ∈ programs, p.Bracketed)
    (ht : m.task? t.number = some t) (hawaits : t.isInterruptible = true) :
    Account start programs (trace ++ (giveBack t.held).map (Event.mk t.number))
      { m with shared := t.abandon o m.shared, tasks := m.others t.number } := by
  obtain ⟨hmem, -⟩ := mem_of_task? ht
  have hacc := h.task t hmem
  obtain ⟨hholds, hspares⟩ := hacc.stopWaiting hb o
  have hnodup := (hacc.bracketed hb).2
  have hlater : ∀ e ∈ (giveBack t.held).map (Event.mk t.number), e.task = t.number := by
    simp
  have hself : stepsOf t.number (trace ++ (giveBack t.held).map (Event.mk t.number)) =
      stepsOf t.number trace ++ giveBack t.held := by
    rw [stepsOf_append, stepsOf_map_same]
  constructor
  · exact h.distinct.sublist (List.filter_sublist.map _)
  · intro u hu
    obtain ⟨hu, hne⟩ := mem_others.mp hu
    refine (h.task u hu).others (fun e he => (hlater e he).trans_ne hne.symm) ?_
    exact (hspares _ hne).trans (Shared.spares_giveBack hne t.held _ hnodup hholds)
  · exact fun u hu => h.number_lt u (mem_others.mp hu).1
  · intro e he
    rcases List.mem_append.mp he with he | he
    · exact h.begun e he
    · exact hlater e he ▸ h.number_lt t hmem
  · intro k p hp
    by_cases hk : k = t.number
    · obtain ⟨p', hp', hpath⟩ := hacc.path
      rw [← hk, hp] at hp'
      cases hp'
      obtain ⟨operation, next, hprogram, hoperation⟩ := exists_of_isInterruptible hawaits
      rw [hk, hself, hacc.held]
      exact ⟨_, _, hpath, .inr ⟨operation, next, hprogram, hoperation, rfl⟩⟩
    · rw [stepsOf_of_others hlater hk]
      exact h.performed k p hp
  · intro r hr
    rw [stepsOf_of_others hlater (h.finished r hr t hmem).symm]
    exact h.result r hr
  · exact h.result_lt
  · exact fun r hr u hu => h.finished r hr u (mem_others.mp hu).1
  · intro k hk
    by_cases hkt : k = t.number
    · rw [hkt, hself, heldAfter, Rule.after_append]
      have heq : Rule.bracketing.after [] (stepsOf t.number trace) = t.held := hacc.held.symm
      rw [heq, after_giveBack]
    · rw [stepsOf_of_others hlater hkt]
      refine h.free k fun u hu heq => ?_
      exact hk u (mem_others.mpr ⟨hu, heq ▸ hkt⟩) heq
  · have hsteps : ((giveBack t.held).map (Event.mk t.number)).map Event.step = giveBack t.held := by
      simp [Function.comp_def]
    rw [List.map_append, hsteps]
    refine Memory.runs_append.mpr ⟨_, h.memory, ?_⟩
    change m.shared.memory.Runs _ (t.abandon o m.shared).memory
    rw [t.memory_abandon]
    exact runs_giveBack _ _
  · exact exclusive_giveBack h.exclusive t.held

/-- A change outside. -/
theorem change (h : Account start programs trace m) (f : ω → ω) :
    Account start programs trace (m.change f) :=
  { h with
    task := fun t ht =>
      let hacc := h.task t ht
      ⟨hacc.path, hacc.held, hacc.holds, hacc.served⟩
    memory := h.memory }

/-- One move. -/
theorem move (h : Account start programs trace m) (hb : ∀ p ∈ programs, p.Bracketed)
    (x : Move ω α) (hx : ∀ p, x.program? = some p → programs[m.begun]? = some p) :
    Account start programs (trace ++ m.events o x) (m.move o x) := by
  have hmakes := makes_move o m x
  generalize m.move o x = m', m.events o x = later at hmakes
  cases hmakes with
  | begin p =>
      rw [List.append_nil]
      exact h.begin (hx p rfl)
  | change f =>
      rw [List.append_nil]
      exact h.change f
  | nobody =>
      rw [List.append_nil]
      exact h
  | finish ht hp =>
      rw [List.append_nil]
      exact h.done hb ht hp
  | wait ht hp hans =>
      rw [List.append_nil]
      exact h.wait ht hp hans
  | answer ht hp hans => exact h.answer hb ht hp hans
  | abandon ht hawaits => exact h.abandon hb ht hawaits

end Account

/-- Along every schedule of bracketed programs, the trace accounts for the machine. -/
theorem account_run (memory : Memory) (outside : ω) {schedule first : List (Move ω α)}
    (hfirst : first <+: schedule) (hb : ∀ p ∈ begunBy schedule, p.Bracketed) :
    Account memory (begunBy schedule) ((idle memory outside).trace o first)
      ((idle memory outside).run o first) := by
  induction first using List.reverseRecOn with
  | nil => exact account_idle memory outside _
  | append_singleton first x ih =>
      have hbefore := (List.prefix_append first [x]).trans hfirst
      rw [trace_append, run_append, trace, trace, List.append_nil]
      refine (ih hbefore).move hb x fun p hp => ?_
      obtain ⟨rest, rfl⟩ := hfirst
      rw [begun_run_idle]
      simp [begunBy, hp]

/-- Along every schedule of bracketed programs, the steps of a number are what a program
performs that was begun, or there are none. -/
theorem performs_run (memory : Memory) (outside : ω) {schedule first : List (Move ω α)}
    (hfirst : first <+: schedule) (hb : ∀ p ∈ begunBy schedule, p.Bracketed) (k : Nat) :
    stepsOf k ((idle memory outside).trace o first) = [] ∨
      ∃ p ∈ begunBy schedule, p.Performs (stepsOf k ((idle memory outside).trace o first)) := by
  have haccount := account_run (o := o) memory outside hfirst hb
  cases hp : (begunBy schedule)[k]? with
  | none =>
      refine .inl (stepsOf_eq_nil fun e he heq => ?_)
      have hlt := haccount.begun e he
      rw [begun_run_idle] at hlt
      have hle := List.getElem?_eq_none_iff.mp hp
      have hmore : (begunBy first).length ≤ (begunBy schedule).length :=
        (hfirst.filterMap _).length_le
      omega
  | some p => exact .inr ⟨p, List.mem_of_getElem? hp, haccount.performed k p hp⟩

/-- Along every schedule of bracketed programs, every step is of the kind that all of them
use. -/
theorem uses_run {may : Operation → Prop} (memory : Memory) (outside : ω)
    {schedule : List (Move ω α)} (hb : ∀ p ∈ begunBy schedule, p.Bracketed)
    (huses : ∀ p ∈ begunBy schedule, p.Uses may) (hgive : ∀ lock, may (.release lock)) :
    ∀ e ∈ (idle memory outside).trace o schedule, may e.step.operation := by
  intro e he
  have hmem : e.step ∈ stepsOf e.task ((idle memory outside).trace o schedule) :=
    mem_stepsOf.mpr he
  rcases performs_run (o := o) memory outside List.prefix_rfl hb e.task with
    hnil | ⟨p, hp, hperforms⟩
  · rw [hnil] at hmem
    cases hmem
  · exact (huses p hp).performs hgive hperforms e.step hmem

end Machine

end VcenterAccess
