/-!
# Pieces between separators

A list is cut at every separator, so `n` separators make `n + 1` pieces.
`joinPieces_pieces` puts the separators back.
-/

namespace VcenterAccess.Text

variable {α : Type}

/-- The pieces of a list between the separators. -/
def pieces [DecidableEq α] (separator : α) : List α → List (List α)
  | [] => [[]]
  | c :: cs =>
      if c = separator then [] :: pieces separator cs
      else
        match pieces separator cs with
        | [] => [[c]]
        | p :: ps => (c :: p) :: ps
termination_by structural cs => cs

/-- Pieces with a separator between each two of them. -/
def joinPieces (separator : α) : List (List α) → List α
  | [] => []
  | [p] => p
  | p :: ps => p ++ separator :: joinPieces separator ps

theorem pieces_ne_nil [DecidableEq α] (separator : α) : ∀ cs : List α, pieces separator cs ≠ []
  | [] => by simp [pieces]
  | c :: cs => by
      unfold pieces
      split
      · simp
      · split <;> simp

theorem joinPieces_cons_cons (separator c : α) (p : List α) (ps : List (List α)) :
    joinPieces separator ((c :: p) :: ps) = c :: joinPieces separator (p :: ps) := by
  cases ps <;> simp [joinPieces]

theorem joinPieces_nil_cons (separator : α) {ps : List (List α)} (h : ps ≠ []) :
    joinPieces separator ([] :: ps) = separator :: joinPieces separator ps := by
  cases ps with
  | nil => exact absurd rfl h
  | cons p ps => simp [joinPieces]

/-- Nothing is lost by cutting. -/
theorem joinPieces_pieces [DecidableEq α] (separator : α) :
    ∀ cs : List α, joinPieces separator (pieces separator cs) = cs
  | [] => rfl
  | c :: cs => by
      have ih := joinPieces_pieces separator cs
      by_cases h : c = separator
      · rw [pieces, if_pos h, joinPieces_nil_cons _ (pieces_ne_nil separator cs), ih, h]
      · rw [pieces, if_neg h]
        split
        · next hp => exact absurd hp (pieces_ne_nil separator cs)
        · next p ps hp => rw [joinPieces_cons_cons, ← hp, ih]

example : pieces '.' "a..b".toList = ["a".toList, [], "b".toList] := by decide

end VcenterAccess.Text
