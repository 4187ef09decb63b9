import Mathlib.Data.List.Induction
import Mathlib.Data.List.Nodup
import VcenterAccess.Machine.Schedule
import VcenterAccess.Proofs.Program.Rule

/-!
# What happens along a schedule

An event is a step of a task, and the trace of a schedule is the list of its events.
The trace determines everything that tasks leave behind: the steps of one task are a
path of its program, the memory at the end is that at the start with all steps
carried out in turn (`Memory.Runs`), and the exchanges with the outside are those of
its steps.

A task that is abandoned gives its locks back.  Its trace ends with the steps that
do so, although they are no steps of its program.
-/

namespace VcenterAccess

/-- A step of a task. -/
structure Event where
  task : Nat
  step : Step

/-- A question with its answer. -/
structure Exchange where
  question : Question
  answer : question.Answer

/-- The exchange of a step that asks a question. -/
def Step.exchange? : Step → Option Exchange
  | ⟨.ask question, answer⟩ => some ⟨question, answer⟩
  | _ => none

theorem Step.exchange?_eq_none {x : Step} (h : ∀ question, x.operation ≠ .ask question) :
    x.exchange? = none := by
  obtain ⟨operation, answer⟩ := x
  cases operation with
  | ask question => exact absurd rfl (h question)
  | _ => rfl

/-- The exchanges of some steps, in turn. -/
def exchanges (h : List Step) : List Exchange := h.filterMap Step.exchange?

theorem exchanges_cons (x : Step) (h : List Step) :
    exchanges (x :: h) = x.exchange?.toList ++ exchanges h := by
  cases hx : x.exchange? <;> simp [exchanges, hx]

theorem exchanges_append (g h : List Step) : exchanges (g ++ h) = exchanges g ++ exchanges h :=
  List.filterMap_append

theorem mem_exchanges {h : List Step} {e : Exchange} :
    e ∈ exchanges h ↔ ⟨.ask e.question, e.answer⟩ ∈ h := by
  rw [exchanges, List.mem_filterMap]
  constructor
  · rintro ⟨⟨operation, answer⟩, hx, hexchange⟩
    cases operation with
    | ask question =>
        cases hexchange
        exact hx
    | _ => cases hexchange
  · exact fun hx => ⟨_, hx, rfl⟩

theorem prefix_exchanges {g h : List Step} (hgh : g <+: h) : exchanges g <+: exchanges h :=
  hgh.filterMap _

/-- A step that asks nothing adds no exchange. -/
theorem exchanges_concat_silent {h : List Step} {x : Step} (hx : x.exchange? = none) :
    exchanges (h ++ [x]) = exchanges h := by
  rw [exchanges_append, exchanges_cons, hx]
  exact List.append_nil _

/-- The steps of one task, in turn. -/
def stepsOf (task : Nat) (events : List Event) : List Step :=
  (events.filter fun e => e.task = task).map Event.step

section

variable (task : Nat) (events : List Event)

@[simp] theorem stepsOf_nil : stepsOf task [] = [] := rfl

theorem stepsOf_append (later : List Event) :
    stepsOf task (events ++ later) = stepsOf task events ++ stepsOf task later := by
  simp [stepsOf]

variable {events} in
theorem prefix_stepsOf {later : List Event} (h : events <+: later) :
    stepsOf task events <+: stepsOf task later :=
  (h.filter _).map _

@[simp] theorem stepsOf_concat_same (x : Step) :
    stepsOf task (events ++ [⟨task, x⟩]) = stepsOf task events ++ [x] := by
  simp [stepsOf]

variable {task} in
@[simp] theorem stepsOf_concat_other {e : Event} (h : e.task ≠ task) :
    stepsOf task (events ++ [e]) = stepsOf task events := by
  simp [stepsOf, h]

theorem stepsOf_map_same (h : List Step) : stepsOf task (h.map (Event.mk task)) = h := by
  induction h with
  | nil => rfl
  | cons x h ih => simpa [stepsOf] using ih

variable {task events}

theorem stepsOf_eq_nil (h : ∀ e ∈ events, e.task ≠ task) : stepsOf task events = [] := by
  simpa [stepsOf] using h

/-- Every step of a task is at some place among the events. -/
theorem exists_of_stepsOf {g g' : List Step} {x : Step} (h : stepsOf task events = g ++ x :: g') :
    ∃ before later, events = before ++ ⟨task, x⟩ :: later ∧ stepsOf task before = g := by
  induction events generalizing g with
  | nil => simp at h
  | cons e events ih =>
      by_cases he : e.task = task
      · have hcons : stepsOf task (e :: events) = e.step :: stepsOf task events := by
          simp [stepsOf, he]
        rw [hcons] at h
        cases g with
        | nil =>
            obtain ⟨rfl, -⟩ := List.cons_eq_cons.mp h
            subst he
            exact ⟨[], events, rfl, rfl⟩
        | cons y g =>
            obtain ⟨rfl, hrest⟩ := List.cons_eq_cons.mp h
            obtain ⟨before, later, rfl, rfl⟩ := ih hrest
            exact ⟨e :: before, later, rfl, by simp [stepsOf, he]⟩
      · have hcons : stepsOf task (e :: events) = stepsOf task events := by simp [stepsOf, he]
        rw [hcons] at h
        obtain ⟨before, later, rfl, rfl⟩ := ih h
        exact ⟨e :: before, later, rfl, by simp [stepsOf, he]⟩

@[simp] theorem stepsOf_cons_same (x : Step) :
    stepsOf task (⟨task, x⟩ :: events) = x :: stepsOf task events := by
  simp [stepsOf]

theorem stepsOf_cons_other {e : Event} (h : e.task ≠ task) :
    stepsOf task (e :: events) = stepsOf task events := by
  simp [stepsOf, h]

/-- The steps before and after it are at the places before and after that. -/
theorem exists_split_of_stepsOf {g g' : List Step} {x : Step}
    (h : stepsOf task events = g ++ x :: g') :
    ∃ before later, events = before ++ ⟨task, x⟩ :: later ∧ stepsOf task before = g ∧
      stepsOf task later = g' := by
  obtain ⟨before, later, rfl, rfl⟩ := exists_of_stepsOf h
  refine ⟨before, later, rfl, rfl, ?_⟩
  rw [stepsOf_append, stepsOf_cons_same, List.append_cancel_left_eq] at h
  exact (List.cons_eq_cons.mp h).2

theorem mem_stepsOf {x : Step} : x ∈ stepsOf task events ↔ ⟨task, x⟩ ∈ events := by
  unfold stepsOf
  constructor
  · intro hx
    obtain ⟨e, he, rfl⟩ := List.mem_map.mp hx
    obtain ⟨hmem, htask⟩ := List.mem_filter.mp he
    obtain rfl : e.task = task := by simpa using htask
    exact hmem
  · intro hx
    exact List.mem_map.mpr ⟨⟨task, x⟩, List.mem_filter.mpr ⟨hx, by simp⟩, rfl⟩

end

namespace Memory

/-- The memory after a step. -/
def after (m : Memory) (x : Step) : Memory :=
  match x.operation with
  | .setClient connection client => m.setClient connection client
  | .setLogin connection login => m.setLogin connection login
  | .setCache source cache => m.setCache source cache
  | _ => m

/-- What a step finds in the memory is there. -/
def Tells (m : Memory) : Step → Prop
  | ⟨.getClient connection, client⟩ => client = m.client connection
  | ⟨.getLogin connection, login⟩ => login = m.login connection
  | ⟨.getCache source, cache⟩ => cache = m.cache source
  | _ => True

/-- Some steps lead from one memory to another. -/
def Runs (m : Memory) : List Step → Memory → Prop
  | [], m' => m = m'
  | x :: h, m' => m.Tells x ∧ (m.after x).Runs h m'

theorem runs_append {m m' : Memory} {g h : List Step} :
    m.Runs (g ++ h) m' ↔ ∃ k, m.Runs g k ∧ k.Runs h m' := by
  induction g generalizing m with
  | nil => simp [Runs]
  | cons x g ih => simp [Runs, ih, and_assoc]

theorem runs_concat {m m' : Memory} {h : List Step} {x : Step} :
    m.Runs (h ++ [x]) m' ↔ ∃ k, m.Runs h k ∧ k.Tells x ∧ m' = k.after x := by
  simp [runs_append, Runs, eq_comm]

/-- Steps lead to one memory at most. -/
theorem Runs.unique {m m₁ m₂ : Memory} {h : List Step} (h₁ : m.Runs h m₁) (h₂ : m.Runs h m₂) :
    m₁ = m₂ := by
  induction h generalizing m with
  | nil => exact h₁.symm.trans h₂
  | cons x h ih => exact ih h₁.2 h₂.2

end Memory

namespace Task

variable {ω α : Type}

/-- The event of the next step, unless it waits or ends the task. -/
def event? (o : Outside ω) (t : Task α) (s : Shared ω) : Option Event :=
  match t.program with
  | .done _ => none
  | .perform operation _ =>
      (operation.perform o t.number t.waits t.held s).answer.map fun answer =>
        ⟨t.number, operation, answer⟩

end Task

/-- The steps that give some locks back. -/
def giveBack (held : List Lock) : List Step := held.map fun lock => ⟨.release lock, ()⟩

/-- The program that a move begins. -/
def Move.program? {ω α : Type} : Move ω α → Option (Program α)
  | .begin program => some program
  | _ => none

/-- The programs that a schedule begins, in turn. -/
def begunBy {ω α : Type} (schedule : List (Move ω α)) : List (Program α) :=
  schedule.filterMap Move.program?

namespace Machine

variable {ω α : Type} (o : Outside ω)

/-- A machine without tasks. -/
def idle (memory : Memory) (outside : ω) : Machine ω α where
  shared := { memory, outside }

/-- What happens at a move. -/
def events (m : Machine ω α) : Move ω α → List Event
  | .step number =>
      match m.task? number with
      | none => []
      | some t => (t.event? o m.shared).toList
  | .abandon number =>
      match (m.task? number).filter Task.isInterruptible with
      | none => []
      | some t => (giveBack t.held).map (Event.mk number)
  | _ => []

/-- What happens along a schedule. -/
def trace : Machine ω α → List (Move ω α) → List Event
  | _, [] => []
  | m, x :: schedule => m.events o x ++ trace (m.move o x) schedule

variable {o}

theorem run_cons (m : Machine ω α) (x : Move ω α) (schedule : List (Move ω α)) :
    m.run o (x :: schedule) = (m.move o x).run o schedule := rfl

theorem trace_append (m : Machine ω α) (first second : List (Move ω α)) :
    m.trace o (first ++ second) = m.trace o first ++ (m.run o first).trace o second := by
  induction first generalizing m with
  | nil => rfl
  | cons x first ih => rw [List.cons_append, trace, trace, ih, List.append_assoc, run_cons]

theorem begun_step (m : Machine ω α) (number : Nat) : (m.step o number).begun = m.begun := by
  unfold step
  split
  · rfl
  · split <;> rfl

theorem begun_abandon (m : Machine ω α) (number : Nat) :
    (m.abandon o number).begun = m.begun := by
  unfold abandon
  split <;> rfl

/-- The tasks that have begun are counted. -/
theorem begun_run (schedule : List (Move ω α)) (m : Machine ω α) :
    (m.run o schedule).begun = m.begun + (begunBy schedule).length := by
  induction schedule generalizing m with
  | nil => rfl
  | cons x schedule ih =>
      rw [run_cons, ih]
      cases x with
      | begin p =>
          simp only [move, begin, begunBy, List.filterMap_cons, Move.program?, List.length_cons]
          omega
      | step number => rw [move, begun_step]; rfl
      | abandon number => rw [move, begun_abandon]; rfl
      | change f => rfl

theorem begun_run_idle (memory : Memory) (outside : ω) (schedule : List (Move ω α)) :
    ((idle memory outside).run o schedule).begun = (begunBy schedule).length := by
  rw [begun_run]
  exact Nat.zero_add _

theorem mem_of_task? {m : Machine ω α} {number : Nat} {t : Task α} (h : m.task? number = some t) :
    t ∈ m.tasks ∧ t.number = number :=
  ⟨List.mem_of_find?_eq_some h, by simpa using List.find?_some h⟩

/-- Two tasks with one number are one, if numbers are distinct. -/
theorem eq_of_number {m : Machine ω α} (hdistinct : (m.tasks.map Task.number).Nodup) {t u : Task α}
    (ht : t ∈ m.tasks) (hu : u ∈ m.tasks) (heq : u.number = t.number) : u = t :=
  List.inj_on_of_nodup_map hdistinct hu ht heq

theorem task?_of_mem {m : Machine ω α} (hdistinct : (m.tasks.map Task.number).Nodup) {t : Task α}
    (ht : t ∈ m.tasks) : m.task? t.number = some t := by
  cases hfound : m.task? t.number with
  | none => simpa using List.find?_eq_none.mp hfound t ht
  | some u =>
      obtain ⟨hu, hnumber⟩ := mem_of_task? hfound
      exact congrArg some (eq_of_number hdistinct ht hu hnumber)

theorem mem_others {m : Machine ω α} {number : Nat} {t : Task α} :
    t ∈ m.others number ↔ t ∈ m.tasks ∧ t.number ≠ number := by
  simp [others]

/-- A step of nobody changes nothing. -/
theorem step_of_none {m : Machine ω α} {number : Nat} (h : m.task? number = none) :
    m.step o number = m ∧ m.events o (.step number) = [] := by
  rw [step, events, h]
  exact ⟨rfl, rfl⟩

/-- A step of a task is one event, or none. -/
theorem events_step (m : Machine ω α) (number : Nat) :
    m.events o (.step number) = [] ∨ ∃ x, m.events o (.step number) = [⟨number, x⟩] := by
  cases ht : m.task? number with
  | none => exact .inl (step_of_none ht).2
  | some t =>
      obtain ⟨-, rfl⟩ := mem_of_task? ht
      have hevents : m.events o (.step t.number) = (t.event? o m.shared).toList := by
        rw [events, ht]
      rw [hevents, Task.event?]
      split
      · exact .inl rfl
      · next operation next hp =>
          cases (operation.perform o t.number t.waits t.held m.shared).answer with
          | none => exact .inl rfl
          | some answer => exact .inr ⟨⟨operation, answer⟩, rfl⟩

/-- Who is abandoned only gives back locks. -/
theorem events_abandon (m : Machine ω α) (number : Nat) :
    ∃ held, (m.events o (.abandon number)).map Event.step = giveBack held := by
  rw [events]
  split
  · exact ⟨[], rfl⟩
  · next t _ => exact ⟨t.held, by simp [Function.comp_def]⟩

/-- The last step of a task notes its result. -/
theorem step_of_done {m : Machine ω α} {number : Nat} {t : Task α} {a : α}
    (h : m.task? number = some t) (hp : t.program = .done a) :
    m.step o number =
        { m with tasks := m.others number, results := m.results ++ [(number, a)] } ∧
      m.events o (.step number) = [] := by
  simp [step, events, h, Task.step, Task.event?, hp]

/-- A task replaced by what became of it. -/
def replace (m : Machine ω α) (number : Nat) (t : Task α) : List (Task α) :=
  m.tasks.map fun u => if u.number = number then t else u

theorem mem_replace {m : Machine ω α} {number : Nat} {t u : Task α} (h : u ∈ m.replace number t) :
    u = t ∨ (u ∈ m.tasks ∧ u.number ≠ number) := by
  obtain ⟨v, hv, rfl⟩ := List.mem_map.mp h
  by_cases hn : v.number = number
  · exact .inl (if_pos hn)
  · rw [if_neg hn]
    exact .inr ⟨hv, hn⟩

theorem map_number_replace (m : Machine ω α) {number : Nat} {t : Task α} (h : t.number = number) :
    (m.replace number t).map Task.number = m.tasks.map Task.number := by
  rw [replace, List.map_map]
  refine List.map_congr_left fun u _ => ?_
  by_cases hn : u.number = number
  · simp [hn, h]
  · simp [hn]

/-- A step of a task that has to wait. -/
theorem step_of_wait {m : Machine ω α} {number : Nat} {t : Task α} {operation : Operation}
    {next : operation.Answer → Program α} (h : m.task? number = some t)
    (hp : t.program = .perform operation next) {out : Outcome ω operation}
    (hout : operation.perform o t.number t.waits t.held m.shared = out) (hans : out.answer = none) :
    m.step o number =
        { m with
          shared := out.shared
          tasks := m.replace number { t with waits := true, held := out.held } } ∧
      m.events o (.step number) = [] := by
  subst hout
  obtain ⟨k, program, waits, held⟩ := t
  cases hp
  simp [step, events, h, Task.step, Task.event?, hans, replace]

/-- A step of a task that goes on. -/
theorem step_of_answer {m : Machine ω α} {number : Nat} {t : Task α} {operation : Operation}
    {next : operation.Answer → Program α} {answer : operation.Answer}
    (h : m.task? number = some t) (hp : t.program = .perform operation next)
    {out : Outcome ω operation}
    (hout : operation.perform o t.number t.waits t.held m.shared = out)
    (hans : out.answer = some answer) :
    m.step o number =
        { m with
          shared := out.shared
          tasks := m.replace number
            { t with program := next answer, waits := false, held := out.held } } ∧
      m.events o (.step number) = [⟨number, operation, answer⟩] := by
  obtain rfl : t.number = number := (mem_of_task? h).2
  subst hout
  obtain ⟨k, program, waits, held⟩ := t
  cases hp
  simp [step, events, h, Task.step, Task.event?, hans, replace]

/-- Results stay. -/
theorem prefix_results_run (m : Machine ω α) (schedule : List (Move ω α)) :
    m.results <+: (m.run o schedule).results := by
  induction schedule generalizing m with
  | nil => exact List.prefix_rfl
  | cons x schedule ih =>
      refine List.IsPrefix.trans ?_ (ih (m.move o x))
      cases x with
      | begin p => exact List.prefix_rfl
      | step number =>
          change m.results <+: (m.step o number).results
          unfold step
          split
          · exact List.prefix_rfl
          · split
            · exact List.prefix_append ..
            · exact List.prefix_rfl
      | abandon number =>
          change m.results <+: (m.abandon o number).results
          unfold abandon
          split <;> exact List.prefix_rfl
      | change f => exact List.prefix_rfl

/-- A task is at work, or has a result. -/
def Known (m : Machine ω α) (number : Nat) : Prop :=
  number ∈ m.tasks.map Task.number ∨ number ∈ m.results.map Prod.fst

theorem Known.step {m : Machine ω α} {number : Nat} (h : m.Known number) (k : Nat) :
    (m.step o k).Known number := by
  cases ht : m.task? k with
  | none => rwa [(step_of_none (o := o) ht).1]
  | some t =>
      obtain ⟨-, rfl⟩ := mem_of_task? ht
      cases hp : t.program with
      | done a =>
          rw [(step_of_done (o := o) ht hp).1]
          rcases h with h | h
          · by_cases hk : number = t.number
            · exact .inr (by simp [hk])
            · obtain ⟨u, hu, rfl⟩ := List.mem_map.mp h
              exact .inl (List.mem_map.mpr ⟨u, mem_others.mpr ⟨hu, hk⟩, rfl⟩)
          · exact .inr (by simp only [List.map_append]; exact List.mem_append_left _ h)
      | perform operation next =>
          generalize hout : operation.perform o t.number t.waits t.held m.shared = out
          cases hans : out.answer with
          | none =>
              rw [(step_of_wait ht hp hout hans).1]
              refine h.imp (fun hk => ?_) id
              change number ∈ (m.replace t.number _).map Task.number
              rw [map_number_replace]
              · exact hk
              · rfl
          | some answer =>
              rw [(step_of_answer ht hp hout hans).1]
              refine h.imp (fun hk => ?_) id
              change number ∈ (m.replace t.number _).map Task.number
              rw [map_number_replace]
              · exact hk
              · rfl

/-- If nobody is abandoned, every task that has begun is at work, or has a result. -/
theorem known_run {m : Machine ω α} {schedule : List (Move ω α)}
    (hkept : ∀ k, .abandon k ∉ schedule) (h : ∀ k < m.begun, m.Known k) :
    ∀ k < (m.run o schedule).begun, (m.run o schedule).Known k := by
  induction schedule generalizing m with
  | nil => exact h
  | cons x schedule ih =>
      refine ih (fun k hk => hkept k (List.mem_cons_of_mem _ hk)) fun k hk => ?_
      cases x with
      | begin p =>
          rcases Nat.lt_succ_iff_lt_or_eq.mp hk with hk | rfl
          · refine (h k hk).imp (fun hk => ?_) id
            simp only [move, begin, List.map_append]
            exact List.mem_append_left _ hk
          · exact .inl (by simp [move, begin])
      | step number =>
          rw [move, begun_step] at hk
          exact (h k hk).step number
      | abandon number => exact absurd (List.mem_cons_self ..) (hkept number)
      | change f => exact h k hk

end Machine

end VcenterAccess
