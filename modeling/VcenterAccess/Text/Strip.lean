/-!
# Cutting lists at their ends

A list may end in a suffix or start with a word; what is left of it is then the
list without them.  `stripEnd?_eq_some_iff` and `stripStart?_eq_some_iff` say so.
-/

namespace VcenterAccess.Text

variable {α : Type} [DecidableEq α]

/-- What stands before `suffix` at the end of a list. -/
def stripEnd? (suffix : List α) : List α → Option (List α)
  | [] => if suffix = [] then some [] else none
  | c :: cs => if c :: cs = suffix then some [] else (stripEnd? suffix cs).map (c :: ·)
termination_by structural cs => cs

/-- What stands after `word` at the start of a list. -/
def stripStart? : List α → List α → Option (List α)
  | [], cs => some cs
  | _ :: _, [] => none
  | w :: word, c :: cs => if w = c then stripStart? word cs else none
termination_by structural word => word

theorem stripEnd?_eq_some_iff {suffix r : List α} :
    ∀ {cs : List α}, stripEnd? suffix cs = some r ↔ cs = r ++ suffix
  | [] => by
      by_cases h : suffix = []
      · subst h
        simp [stripEnd?, eq_comm]
      · have : ¬ [] = r ++ suffix := by
          intro he
          exact h (List.append_eq_nil_iff.mp he.symm).2
        simp [stripEnd?, h, this]
  | c :: cs => by
      by_cases h : c :: cs = suffix
      · subst h
        simp [stripEnd?, eq_comm]
      · have ih := fun r' => @stripEnd?_eq_some_iff suffix r' cs
        simp only [stripEnd?, h, if_false, Option.map_eq_some_iff, ih]
        constructor
        · rintro ⟨r', rfl, rfl⟩
          rfl
        · intro he
          cases r with
          | nil => exact absurd he h
          | cons d r' =>
              obtain ⟨rfl, rfl⟩ := List.cons.inj he
              exact ⟨r', rfl, rfl⟩

theorem stripStart?_eq_some_iff {r : List α} :
    ∀ {word cs : List α}, stripStart? word cs = some r ↔ cs = word ++ r
  | [], cs => by simp [stripStart?]
  | w :: word, [] => by simp [stripStart?]
  | w :: word, c :: cs => by
      have ih := @stripStart?_eq_some_iff r word cs
      by_cases h : w = c
      · subst h
        simp [stripStart?, ih]
      · simp [stripStart?, h, Ne.symm h]

end VcenterAccess.Text
