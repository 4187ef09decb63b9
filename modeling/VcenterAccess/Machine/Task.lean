import VcenterAccess.Machine.Lock
import VcenterAccess.Memory
import VcenterAccess.Program

/-!
# Tasks

A task is a program at work.  All tasks share memory, locks and the outside.  The
outside is any machine that answers questions, at once or later; nothing is known
about it, so whatever holds for tasks holds for every outside.

A step of a task performs one operation or finds that it has to wait.  A task may be
abandoned where it waits; it then leaves the queue and gives back its locks, the
last one first.
-/

namespace VcenterAccess

/-- What answers questions, with its states `ω`. -/
structure Outside (ω : Type) where
  /-- A task asks; there is an answer at once or there will be one later. -/
  ask : Nat → (question : Question) → ω → Option question.Answer × ω
  /-- A task that asked looks for the answer. -/
  collect : Nat → (question : Question) → ω → Option question.Answer × ω
  /-- A task that asked does not want the answer any more.  Others may get theirs
  now. -/
  cancel : Nat → ω → List Nat × ω

/-- What all tasks share. -/
structure Shared (ω : Type) where
  /-- What is kept. -/
  memory : Memory
  lock : Lock → LockState := fun _ => .free
  /-- The state of the outside. -/
  outside : ω
  /-- The tasks that can go on, in the order in which they became able to. -/
  ready : List Nat := []

namespace Shared

variable {ω : Type}

/-- Queue up for a lock, or take it. -/
def join (s : Shared ω) (lock : Lock) (task : Nat) : Shared ω :=
  { s with lock := assign s.lock lock ((s.lock lock).join task) }

/-- Give a lock back.  Who gets it can go on. -/
def release (s : Shared ω) (lock : Lock) : Shared ω :=
  let passed := (s.lock lock).pass
  { s with lock := assign s.lock lock passed, ready := s.ready ++ passed.holder?.toList }

/-- Do not wait for a lock any longer.  If it is there already, give it back. -/
def leave (s : Shared ω) (lock : Lock) (task : Nat) : Shared ω :=
  if (s.lock lock).isAwaitedBy task then
    { s with lock := assign s.lock lock ((s.lock lock).leave task) }
  else s.release lock

end Shared

/-- What an operation comes to: its answer, or none if it has to wait; and the locks
that the task then holds, the last one first. -/
structure Outcome (ω : Type) (operation : Operation) where
  answer : Option operation.Answer
  held : List Lock
  /-- What is shared afterwards. -/
  shared : Shared ω

/-- Perform an operation for a task that waits for it already or does not. -/
def Operation.perform {ω : Type} (o : Outside ω) (task : Nat) (waits : Bool) (held : List Lock)
    (s : Shared ω) : (operation : Operation) → Outcome ω operation
  | .acquire lock =>
      let s := if waits then s else s.join lock task
      if (s.lock lock).isAwaitedBy task then ⟨none, held, s⟩ else ⟨some (), lock :: held, s⟩
  | .release lock => ⟨some (), held.erase lock, s.release lock⟩
  | .getClient connection => ⟨some (s.memory.client connection), held, s⟩
  | .setClient connection client =>
      ⟨some (), held, { s with memory := s.memory.setClient connection client }⟩
  | .getLogin connection => ⟨some (s.memory.login connection), held, s⟩
  | .setLogin connection login =>
      ⟨some (), held, { s with memory := s.memory.setLogin connection login }⟩
  | .getCache source => ⟨some (s.memory.cache source), held, s⟩
  | .setCache source cache =>
      ⟨some (), held, { s with memory := s.memory.setCache source cache }⟩
  | .ask question =>
      let (answer, outside) :=
        if waits then o.collect task question s.outside else o.ask task question s.outside
      ⟨answer, held, { s with outside }⟩

/-- A program at work. -/
structure Task (α : Type) where
  number : Nat
  /-- What is left to do. -/
  program : Program α
  /-- Whether it waits for its next operation. -/
  waits : Bool := false
  /-- The locks it holds, the last one first. -/
  held : List Lock := []

namespace Task

variable {ω α : Type}

/-- One step: the result if the program is done, else the task as it goes on. -/
def step (o : Outside ω) (t : Task α) (s : Shared ω) : (α ⊕ Task α) × Shared ω :=
  match t.program with
  | .done a => (.inl a, s)
  | .perform operation next =>
      let outcome := operation.perform o t.number t.waits t.held s
      match outcome.answer with
      | none => (.inr { t with waits := true, held := outcome.held }, outcome.shared)
      | some answer =>
          (.inr { t with program := next answer, waits := false, held := outcome.held },
            outcome.shared)

/-- Whether the task may be abandoned here. -/
def isInterruptible (t : Task α) : Bool :=
  match t.program with
  | .done _ => false
  | .perform operation _ => operation.isAwaited

/-- Stop waiting. -/
def stopWaiting (o : Outside ω) (t : Task α) (s : Shared ω) : Shared ω :=
  match t.waits, t.program with
  | true, .perform (.acquire lock) _ => s.leave lock t.number
  | true, .perform (.ask _) _ =>
      let (woken, outside) := o.cancel t.number s.outside
      { s with outside, ready := s.ready ++ woken }
  | _, _ => s

/-- Abandon the task. -/
def abandon (o : Outside ω) (t : Task α) (s : Shared ω) : Shared ω :=
  t.held.foldl Shared.release (t.stopWaiting o s)

end Task

end VcenterAccess
