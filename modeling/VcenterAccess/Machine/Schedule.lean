import VcenterAccess.Machine.Task

/-!
# Schedules

A machine has many tasks at work.  A schedule says what happens in turn: a task
begins, makes a step or is abandoned, or something changes outside.  What holds
after every schedule holds however tasks are interleaved.

One schedule is fair and needs no choice: tasks go on in the order in which they
became able to, each until it waits or is done.  That is how a machine settles.
-/

namespace VcenterAccess

/-- Many tasks at work, with results `α`. -/
structure Machine (ω α : Type) where
  /-- What the tasks share. -/
  shared : Shared ω
  /-- The number of tasks that have begun; it is the number of the next one. -/
  begun : Nat := 0
  /-- The tasks that are not done. -/
  tasks : List (Task α) := []
  /-- The results of those that are, in that order. -/
  results : List (Nat × α) := []

/-- What happens next. -/
inductive Move (ω α : Type) where
  /-- A task begins. -/
  | begin (program : Program α)
  /-- A task makes a step. -/
  | step (task : Nat)
  | abandon (task : Nat)
  /-- Something changes outside. -/
  | change (f : ω → ω)

namespace Machine

variable {ω α : Type} (o : Outside ω)

/-- The task with a number, unless it is done or abandoned. -/
def task? (m : Machine ω α) (number : Nat) : Option (Task α) :=
  m.tasks.find? fun t => t.number = number

/-- The tasks without one of them. -/
def others (m : Machine ω α) (number : Nat) : List (Task α) :=
  m.tasks.filter fun t => t.number ≠ number

/-- Begin a task.  It can go on at once. -/
def begin (m : Machine ω α) (program : Program α) : Machine ω α :=
  { m with
    shared := { m.shared with ready := m.shared.ready ++ [m.begun] }
    begun := m.begun + 1
    tasks := m.tasks ++ [{ number := m.begun, program }] }

/-- Make a step of a task. -/
def step (m : Machine ω α) (number : Nat) : Machine ω α :=
  match m.task? number with
  | none => m
  | some t =>
      match t.step o m.shared with
      | (.inl a, shared) =>
          { m with shared, tasks := m.others number, results := m.results ++ [(number, a)] }
      | (.inr t, shared) =>
          { m with shared, tasks := m.tasks.map fun u => if u.number = number then t else u }

/-- Abandon a task where that is possible. -/
def abandon (m : Machine ω α) (number : Nat) : Machine ω α :=
  match (m.task? number).filter Task.isInterruptible with
  | none => m
  | some t => { m with shared := t.abandon o m.shared, tasks := m.others number }

/-- Change something outside. -/
def change (m : Machine ω α) (f : ω → ω) : Machine ω α :=
  { m with shared := { m.shared with outside := f m.shared.outside } }

/-- Make a move. -/
def move (m : Machine ω α) : Move ω α → Machine ω α
  | .begin program => m.begin program
  | .step number => m.step o number
  | .abandon number => m.abandon o number
  | .change f => m.change f

/-- Follow a schedule. -/
def run (m : Machine ω α) (schedule : List (Move ω α)) : Machine ω α := schedule.foldl (move o) m

/-- Whether a task can make a step. -/
def isActive (m : Machine ω α) (number : Nat) : Bool :=
  match m.task? number with
  | none => false
  | some t => !t.waits

/-- Take the first ready task off if it waits again or is done. -/
def yield (m : Machine ω α) : Machine ω α :=
  match m.shared.ready with
  | [] => m
  | number :: rest =>
      if m.isActive number then m else { m with shared := { m.shared with ready := rest } }

/-- Let ready tasks go on, for some steps at most. -/
def settle (m : Machine ω α) : Nat → Machine ω α
  | 0 => m
  | steps + 1 =>
      match m.shared.ready with
      | [] => m
      | number :: _ => ((m.step o number).yield).settle steps
termination_by structural steps => steps

theorem run_append (m : Machine ω α) (first second : List (Move ω α)) :
    m.run o (first ++ second) = (m.run o first).run o second :=
  List.foldl_append

end Machine

end VcenterAccess
