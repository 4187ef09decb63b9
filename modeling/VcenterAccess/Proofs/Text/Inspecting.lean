import VcenterAccess.Proofs.Text.Numerals
import VcenterAccess.Text.Inspection

/-!
# What an inspection text tells

An inspection hides part of a value if it does not look at it.  `Hides` says so by a function
that blanks the part: the blanked value is shown as the value itself is.

An inspection is *self-ending* if no text starts with the inspections of two values.  Such a
one can be read back wherever it stands, in a map as well (`SelfEnding.inspectMap_append_inj`).
A number is not self-ending, since more digits may follow.  A list of numbers is
(`selfEnding_numbers`): what stands behind a number in it is no digit.
-/

namespace VcenterAccess.Text

variable {α : Type}

/-! ## Hiding -/

/-- The inspection does not look at what `blank` takes out of a value. -/
def Hides (inspect : α → String) (blank : α → α) : Prop := ∀ a, inspect (blank a) = inspect a

namespace Hides

variable {inspect : α → String} {blank : α → α}

/-- Values that differ in what is hidden only are shown alike. -/
theorem inspect_eq (h : Hides inspect blank) {a b : α} (hab : blank a = blank b) :
    inspect a = inspect b :=
  (h a).symm.trans ((congrArg inspect hab).trans (h b))

theorem inspectMap_map (h : Hides inspect blank) (entries : List (String × α)) :
    inspectMap inspect (entries.map fun e => (e.1, blank e.2)) = inspectMap inspect entries := by
  simp only [inspectMap, List.map_map, Function.comp_def, h _]

end Hides

/-! ## Joined texts -/

/-- The texts with a separator before each of them. -/
def following (separator : String) : List String → String
  | [] => ""
  | s :: ss => separator ++ (s ++ following separator ss)

theorem joinWith_cons (separator s : String) (ss : List String) :
    joinWith separator (s :: ss) = s ++ following separator ss := by
  induction ss generalizing s with
  | nil => simp [joinWith, following]
  | cons t ss ih =>
      rw [joinWith, ih, following, String.append_assoc]
      exact List.cons_ne_nil t ss

/-! ## Self-ending inspections -/

/-- No text starts with the inspections of two values. -/
def SelfEnding (inspect : α → String) : Prop :=
  ∀ {a b : α} {x y : String}, inspect a ++ x = inspect b ++ y → a = b ∧ x = y

namespace SelfEnding

variable {inspect : α → String}

/-- What can be read back can be read back as the argument of a constructor. -/
theorem inspectCall (h : SelfEnding inspect) (name : String) :
    SelfEnding fun a => inspectCall name [inspect a] := by
  intro a b x y hab
  simp only [Text.inspectCall, joinWith, String.append_assoc, String.append_right_inj] at hab
  obtain ⟨rfl, hxy⟩ := h hab
  exact ⟨rfl, (String.append_right_inj _).mp hxy⟩

variable {entries entries' : List (String × α)}

/-- Entries with the same keys are read back one by one. -/
theorem following_inj (h : SelfEnding inspect)
    (hkeys : entries.map Prod.fst = entries'.map Prod.fst) {x y : String}
    (heq : following ", " (entries.map fun e => quote e.1 ++ (": " ++ inspect e.2)) ++ x =
      following ", " (entries'.map fun e => quote e.1 ++ (": " ++ inspect e.2)) ++ y) :
    entries = entries' ∧ x = y := by
  induction entries generalizing entries' with
  | nil =>
      obtain rfl := List.map_eq_nil_iff.mp hkeys.symm
      exact ⟨rfl, (String.append_right_inj _).mp heq⟩
  | cons e entries ih =>
      cases entries' with
      | nil => cases hkeys
      | cons e' entries' =>
          obtain ⟨k, a⟩ := e
          obtain ⟨k', a'⟩ := e'
          obtain ⟨rfl, hrest⟩ := List.cons.inj hkeys
          simp only [List.map_cons, following, String.append_assoc, String.append_right_inj] at heq
          obtain ⟨rfl, hbehind⟩ := h heq
          obtain ⟨rfl, hxy⟩ := ih hrest hbehind
          exact ⟨rfl, hxy⟩

/-- A map is read back wherever it stands, if its keys are known. -/
theorem inspectMap_append_inj (h : SelfEnding inspect)
    (hkeys : entries.map Prod.fst = entries'.map Prod.fst) {x y : String}
    (heq : inspectMap inspect entries ++ x = inspectMap inspect entries' ++ y) :
    entries = entries' ∧ x = y := by
  cases entries with
  | nil =>
      obtain rfl := List.map_eq_nil_iff.mp hkeys.symm
      exact ⟨rfl, (String.append_right_inj _).mp heq⟩
  | cons e entries =>
      cases entries' with
      | nil => cases hkeys
      | cons e' entries' =>
          simp only [inspectMap, List.map_cons, joinWith_cons, String.append_assoc,
            String.append_right_inj] at heq
          have hbehind := h.following_inj hkeys (x := "\x7d" ++ x) (y := "\x7d" ++ y) (by
            simp only [List.map_cons, following, String.append_assoc, String.append_right_inj]
            exact heq)
          exact ⟨hbehind.1, (String.append_right_inj _).mp hbehind.2⟩

end SelfEnding

/-! ## Numbers -/

/-- What stands behind a number of a list is a comma or a bracket. -/
theorem isDigit_of_mem_head?_following (ns : List Nat) (xs : List Char) :
    ∀ c ∈ ((following ", " (ns.map toString)).toList ++ ']' :: xs).head?,
      c.isDigit = false := by
  cases ns with
  | nil =>
      rintro _ ⟨⟩
      decide
  | cons n ns =>
      rw [List.map_cons, following, String.toList_append, List.append_assoc]
      rintro _ ⟨⟩
      decide

theorem following_numbers_inj {ms ns : List Nat} {xs ys : List Char}
    (h : (following ", " (ms.map toString)).toList ++ ']' :: xs =
      (following ", " (ns.map toString)).toList ++ ']' :: ys) : ms = ns ∧ xs = ys := by
  induction ms generalizing ns with
  | nil =>
      cases ns with
      | nil => exact ⟨rfl, (List.cons.inj h).2⟩
      | cons n ns =>
          rw [List.map_cons, following, String.toList_append, List.append_assoc] at h
          exact absurd (List.cons.inj h).1 (by decide)
  | cons m ms ih =>
      cases ns with
      | nil =>
          rw [List.map_cons, following, String.toList_append, List.append_assoc] at h
          exact absurd (List.cons.inj h).1 (by decide)
      | cons n ns =>
          simp only [List.map_cons, following, String.toList_append, List.append_assoc,
            List.append_cancel_left_eq] at h
          obtain ⟨rfl, hbehind⟩ := toString_append_inj (isDigit_of_mem_head?_following ms xs)
            (isDigit_of_mem_head?_following ns ys) h
          obtain ⟨rfl, hxy⟩ := ih hbehind
          exact ⟨rfl, hxy⟩

theorem selfEnding_numbers : SelfEnding (inspectList (toString : Nat → String)) := by
  intro ms ns x y h
  have hlist : (joinWith ", " (ms.map toString)).toList ++ ']' :: x.toList =
      (joinWith ", " (ns.map toString)).toList ++ ']' :: y.toList := by
    simpa [inspectList, String.append_assoc, ← String.toList_inj] using h
  rw [← String.toList_inj]
  cases ms with
  | nil =>
      cases ns with
      | nil => exact ⟨rfl, (List.cons.inj hlist).2⟩
      | cons n ns =>
          rw [List.map_cons, joinWith_cons, String.toList_append, List.append_assoc] at hlist
          exact absurd hlist.symm (toString_append_ne_cons (by decide) _ _)
  | cons m ms =>
      cases ns with
      | nil =>
          rw [List.map_cons, joinWith_cons, String.toList_append, List.append_assoc] at hlist
          exact absurd hlist (toString_append_ne_cons (by decide) _ _)
      | cons n ns =>
          simp only [List.map_cons, joinWith_cons, String.toList_append, List.append_assoc] at hlist
          obtain ⟨rfl, hbehind⟩ := toString_append_inj (isDigit_of_mem_head?_following ms _)
            (isDigit_of_mem_head?_following ns _) hlist
          obtain ⟨rfl, hxy⟩ := following_numbers_inj hbehind
          exact ⟨rfl, hxy⟩

end VcenterAccess.Text
