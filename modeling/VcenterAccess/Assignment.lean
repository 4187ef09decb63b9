/-!
# Assignments

An assignment gives a value to every key there could be.  Changing it changes the
value of one key.
-/

namespace VcenterAccess

/-- Give another value to one key. -/
def assign {κ α : Type} [DecidableEq κ] (f : κ → α) (k : κ) (a : α) : κ → α :=
  fun k' => if k' = k then a else f k'

section

variable {κ α : Type} [DecidableEq κ] (f : κ → α)

@[simp] theorem assign_same (k : κ) (a : α) : assign f k a k = a := if_pos rfl

@[simp] theorem assign_other {k k' : κ} (h : k' ≠ k) (a : α) : assign f k a k' = f k' :=
  if_neg h

@[simp] theorem assign_self (k : κ) : assign f k (f k) = f := by
  funext k'
  by_cases h : k' = k <;> simp [assign, h]

@[simp] theorem assign_assign (k : κ) (a b : α) : assign (assign f k a) k b = assign f k b := by
  funext k'
  by_cases h : k' = k <;> simp [assign, h]

theorem assign_comm {k l : κ} (h : k ≠ l) (a b : α) :
    assign (assign f k a) l b = assign (assign f l b) k a := by
  funext k'
  by_cases hk : k' = k
  · subst hk
    simp [assign, h]
  · simp [assign, hk]

end

end VcenterAccess
