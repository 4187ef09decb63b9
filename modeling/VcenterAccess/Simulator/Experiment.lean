import VcenterAccess.Machine.Schedule
import VcenterAccess.Simulator.World

/-!
# Experiments

An experiment runs tasks in a simulated world, one step after the other.  A step
arranges something, carries out a program, begins one under a name, or abandons one
that was begun.  After every step all tasks go on until each of them waits or is
done; then there is a report of what happened since the last one.
-/

namespace VcenterAccess

/-- Tasks in a simulated world, some with names. -/
structure Experiment (α : Type) where
  /-- The tasks. -/
  machine : Machine World α
  /-- The tasks that were begun under a name that was not abandoned since. -/
  names : List (Nat × String) := []
  /-- More steps than this no task makes between two reports. -/
  stamina : Nat := 64

/-- What happened since the last report. -/
structure Report (α : Type) where
  /-- The calls to the vCenter. -/
  calls : List Question
  /-- Who is logged in with each client. -/
  sessions : List (Nat × String)
  /-- The results of the tasks with names that are done, unless there is no name. -/
  results : Option (List (String × α))

namespace Experiment

variable {α : Type}

/-- An experiment that starts from some memory and world. -/
def start (memory : Memory) (world : World) : Experiment α where
  machine := { shared := { memory, outside := world } }

/-- The simulated world. -/
def world (e : Experiment α) : World := e.machine.shared.outside

/-- What is kept. -/
def memory (e : Experiment α) : Memory := e.machine.shared.memory

/-- Whether a task is not done. -/
def isBusy (e : Experiment α) : Bool := !e.machine.tasks.isEmpty

/-- Let all tasks go on until each of them waits or is done. -/
def settle (e : Experiment α) : Experiment α :=
  { e with
    machine := e.machine.settle World.outside ((e.machine.tasks.length + 1) * e.stamina) }

/-- The result of a task that is done since the last report. -/
def result? (e : Experiment α) (number : Nat) : Option α :=
  (e.machine.results.find? fun r => r.1 = number).map Prod.snd

/-- Arrange something. -/
def intervene (e : Experiment α) (i : Intervention) : Experiment α :=
  let (woken, world) := e.world.intervene i
  let shared := e.machine.shared
  settle { e with
    machine := { e.machine with
      shared := { shared with outside := world, ready := shared.ready ++ woken } } }

/-- Carry out a program.  There is no result if it waits. -/
def act (e : Experiment α) (program : Program α) : Option α × Experiment α :=
  let number := e.machine.begun
  let e := settle { e with machine := e.machine.begin program }
  (e.result? number, e)

/-- Begin a program under a name. -/
def begin (e : Experiment α) (name : String) (program : Program α) : Experiment α :=
  settle { e with
    machine := e.machine.begin program
    names := (e.machine.begun, name) :: e.names }

/-- Abandon what was begun under a name. -/
def abandon (e : Experiment α) (name : String) : Experiment α :=
  settle { e with
    machine := (e.names.filter fun n => n.2 = name).foldl
      (fun m n => m.abandon World.outside n.1) e.machine
    names := e.names.filter fun n => n.2 ≠ name }

/-- The result of a task with a name. -/
def named? (e : Experiment α) (r : Nat × α) : Option (String × α) :=
  (e.names.find? fun n => n.1 = r.1).map fun n => (n.2, r.2)

/-- What happened since the last report. -/
def report (e : Experiment α) : Report α where
  calls := e.world.vcenter.calls
  sessions := e.world.vcenter.sessions
  results := if e.names.isEmpty then none else some (e.machine.results.filterMap e.named?)

/-- Begin the next report. -/
def forget (e : Experiment α) : Experiment α :=
  let shared := e.machine.shared
  let world := shared.outside
  { e with
    machine := { e.machine with
      shared := { shared with
        outside := { world with vcenter := { world.vcenter with calls := [] } } }
      results := [] } }

end Experiment

end VcenterAccess
