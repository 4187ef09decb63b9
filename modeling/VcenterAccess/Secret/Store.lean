import VcenterAccess.Secret.Basic

/-!
# The store of known Secrets

A store holds the last reported state of each Secret, by namespace and name.
While the cluster lists all its Secrets anew, the listed ones gather in a buffer
that replaces the store at the end, so a reader never sees half a list.

A Secret reported without a namespace is found under its name in every
namespace that has no Secret of that name.
-/

namespace VcenterAccess

/-- Where a reported Secret is kept. -/
structure SecretPlace where
  /-- The namespace, if the object carries one. -/
  ns : Option String
  name : String
deriving DecidableEq, Repr

/-- The place of a Secret. -/
def Secret.place (s : Secret) : SecretPlace := ⟨s.ns, s.name⟩

/-- The place a reference points at. -/
def SecretReference.place (r : SecretReference) : SecretPlace := ⟨some r.ns, r.name⟩

/-- Secrets with their places, no place twice. -/
abbrev SecretShelf := List (SecretPlace × Secret)

namespace SecretShelf

/-- The Secret at a place. -/
def at? (p : SecretPlace) : SecretShelf → Option Secret
  | [] => none
  | (q, s) :: rest => if p = q then some s else at? p rest

/-- Put a Secret at its place. -/
def put (s : Secret) : SecretShelf → SecretShelf
  | [] => [(s.place, s)]
  | (q, old) :: rest => if s.place = q then (q, s) :: rest else (q, old) :: put s rest

/-- Take away what is at the place of a Secret. -/
def remove (s : Secret) (shelf : SecretShelf) : SecretShelf :=
  shelf.filter fun e => !decide (s.place = e.1)

theorem at?_put (s : Secret) (p : SecretPlace) :
    ∀ shelf : SecretShelf, at? p (put s shelf) = if p = s.place then some s else at? p shelf
  | [] => rfl
  | (q, old) :: rest => by
      have ih := at?_put s p rest
      by_cases hq : s.place = q
      · subst hq
        by_cases hp : p = s.place <;> simp [put, at?, hp]
      · by_cases hp : p = q
        · subst hp
          simp [put, at?, hq, Ne.symm hq]
        · simp [put, at?, hq, hp, ih]

theorem at?_remove (s : Secret) (p : SecretPlace) :
    ∀ shelf : SecretShelf, at? p (remove s shelf) = if p = s.place then none else at? p shelf
  | [] => by simp [remove, at?]
  | (q, old) :: rest => by
      have ih : at? p (rest.filter fun e => !decide (s.place = e.1)) =
          if p = s.place then none else at? p rest := at?_remove s p rest
      by_cases hq : s.place = q
      · by_cases hp : p = s.place
        · simpa [remove, hq, hp] using ih
        · have hpq : ¬ p = q := fun h => hp (h.trans hq.symm)
          simpa [remove, at?, hq, hpq, hp] using ih
      · by_cases hp : p = q
        · have hne : ¬ p = s.place := fun h => hq (h.symm.trans hp)
          simp [remove, at?, hq, hp, Ne.symm hq]
        · simp [remove, at?, hq, hp, ih]

end SecretShelf

/-- What the watch of a cluster reports about its Secrets. -/
inductive SecretEvent where
  /-- A Secret is new or has changed. -/
  | applied (s : Secret)
  /-- A Secret is gone. -/
  | deleted (s : Secret)
  /-- A list of all Secrets starts. -/
  | listStarted
  /-- A Secret of that list. -/
  | listed (s : Secret)
  | listCompleted
deriving DecidableEq

/-- The known Secrets, and those of a list that is not complete. -/
structure SecretStore where
  /-- The Secrets that are served. -/
  known : SecretShelf := []
  /-- The Secrets listed so far. -/
  buffer : SecretShelf := []
deriving DecidableEq, Inhabited

namespace SecretStore

/-- Take note of an event. -/
def observe (store : SecretStore) : SecretEvent → SecretStore
  | .applied s => { store with known := store.known.put s }
  | .deleted s => { store with known := store.known.remove s }
  | .listStarted => { store with buffer := [] }
  | .listed s => { store with buffer := store.buffer.put s }
  | .listCompleted => { known := store.buffer, buffer := [] }

/-- The Secret of a reference. -/
def get? (store : SecretStore) (r : SecretReference) : Option Secret :=
  (store.known.at? r.place).or (store.known.at? ⟨none, r.name⟩)

end SecretStore

end VcenterAccess
