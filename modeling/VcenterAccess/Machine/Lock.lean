/-!
# Locks with a queue

A lock is free, or somebody has it and others may wait for it.  Whoever gives it
back hands it to the first who waits, so a lock is never free while somebody waits
for it.
-/

namespace VcenterAccess

/-- Who has a lock, and who waits for it. -/
inductive LockState where
  /-- Nobody has it. -/
  | free
  /-- A task has it, and others wait in this order. -/
  | held (holder : Nat) (waiting : List Nat)
deriving DecidableEq, Inhabited, Repr

namespace LockState

/-- Take the lock if it is free, and queue up for it otherwise. -/
def join (task : Nat) : LockState → LockState
  | free => held task []
  | held holder waiting => held holder (waiting ++ [task])

/-- Whether a task waits. -/
def isAwaitedBy (task : Nat) : LockState → Bool
  | free => false
  | held _ waiting => waiting.contains task

/-- Give the lock back. -/
def pass : LockState → LockState
  | held _ (next :: waiting) => held next waiting
  | _ => free

/-- Who has the lock. -/
def holder? : LockState → Option Nat
  | free => none
  | held holder _ => some holder

/-- Do not wait any longer. -/
def leave (task : Nat) : LockState → LockState
  | free => free
  | held holder waiting => held holder (waiting.filter (· ≠ task))

/-- Joining never takes a lock away. -/
theorem holder?_join (s : LockState) (task : Nat) :
    (s.join task).holder? = some (s.holder?.getD task) := by
  cases s <;> rfl

/-- Whoever joins a held lock waits for it. -/
theorem isAwaitedBy_join (s : LockState) (task : Nat) :
    (s.join task).isAwaitedBy task = s.holder?.isSome := by
  cases s <;> simp [join, isAwaitedBy, holder?]

end LockState

end VcenterAccess
