import VcenterAccess.Connection.Basic
import VcenterAccess.Credential.Cache

/-!
# Programs

What a caller of a connection does is a program: a tree of operations, each with
the programs that go on from its answers.  Operations take and give back locks,
read and write what connections and caches keep, and ask questions to the outside.
A program says nothing about who else is at work; a machine runs many of them step
by step.

Nothing happens between two operations, so a caller can only be interrupted, or
give up, at one.
-/

namespace VcenterAccess

/-- What only one caller has at a time. -/
inductive Lock where
  /-- The right to connect or to log out, shared by connections. -/
  | connect (number : Nat)
  | credentials (connection : Nat)
  /-- The cache of a source of credentials. -/
  | cache (source : Nat)
deriving DecidableEq, Repr

/-- A step of a program. -/
inductive Operation where
  /-- Take a lock, and wait for it if need be. -/
  | acquire (lock : Lock)
  /-- Give a lock back. -/
  | release (lock : Lock)
  /-- Read the client of a connection. -/
  | getClient (connection : Nat)
  /-- Replace the client of a connection. -/
  | setClient (connection : Nat) (client : Option Client)
  /-- Read what the next login of a connection uses. -/
  | getLogin (connection : Nat)
  /-- Replace what the next login of a connection uses. -/
  | setLogin (connection : Nat) (login : LoginState)
  /-- Read a cache. -/
  | getCache (source : Nat)
  /-- Replace a cache. -/
  | setCache (source : Nat) (cache : SecretCache)
  /-- Ask a question to the outside. -/
  | ask (question : Question)

namespace Operation

/-- What an operation gives to the program that goes on. -/
@[reducible] def Answer : Operation → Type
  | acquire _ => Unit
  | release _ => Unit
  | getClient _ => Option Client
  | setClient .. => Unit
  | getLogin _ => LoginState
  | setLogin .. => Unit
  | getCache _ => SecretCache
  | setCache .. => Unit
  | ask question => question.Answer

/-- Whether a caller may give up at an operation: where it waits for a lock that
is held across questions, or for an answer that takes its time. -/
def isAwaited : Operation → Bool
  | acquire (.cache _) => false
  | acquire _ => true
  | ask question => question.isAwaited
  | _ => false

end Operation

/-- What a caller does, with what it finds out in the end. -/
inductive Program (α : Type) where
  /-- Nothing more. -/
  | done (a : α)
  /-- An operation, and what goes on from its answer. -/
  | perform (operation : Operation) (next : operation.Answer → Program α)

namespace Program

variable {α β : Type}

/-- One program after the other. -/
def bind : Program α → (α → Program β) → Program β
  | done a, f => f a
  | perform operation next, f => perform operation fun answer => (next answer).bind f
termination_by structural p => p

instance : Monad Program where
  pure := done
  bind := bind

/-- The program of a single operation. -/
def operate (operation : Operation) : Program operation.Answer := perform operation done

/-- Ask a question to the outside. -/
def ask (question : Question) : Program question.Answer := operate (.ask question)

/-- Do something with a lock taken. -/
def locked (lock : Lock) (p : Program α) : Program α := do
  operate (.acquire lock)
  let a ← p
  operate (.release lock)
  return a

end Program

end VcenterAccess
