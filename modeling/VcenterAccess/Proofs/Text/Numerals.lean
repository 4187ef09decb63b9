/-!
# Numbers in decimal

A number in decimal is digits and nothing else, at least one of them, and is read back from
them (`ofDigitChars_toString`).  In a longer text it goes as far as there are digits
(`toString_append_inj`).
-/

namespace VcenterAccess.Text

theorem isDigit_of_mem_toString {n : Nat} {c : Char} (h : c ∈ (toString n).toList) :
    c.isDigit = true := by
  rw [Nat.toString_eq_repr, Nat.toList_repr] at h
  exact Nat.isDigit_of_mem_toDigits (by decide) (by decide) h

theorem toString_ne_nil (n : Nat) : (toString n).toList ≠ [] := by
  rw [Nat.toString_eq_repr, Nat.toList_repr]
  exact Nat.toDigits_ne_nil

theorem ofDigitChars_toString (n : Nat) : Nat.ofDigitChars 10 (toString n).toList 0 = n := by
  rw [Nat.toString_eq_repr, Nat.toList_repr, Nat.ofDigitChars_toDigits (by decide) (by decide)]

theorem toString_inj {m n : Nat} : toString m = toString n ↔ m = n := by
  refine ⟨fun h => ?_, congrArg toString⟩
  rw [← ofDigitChars_toString m, h, ofDigitChars_toString]

/-- A number ends where no digit follows. -/
theorem toString_append_inj {m n : Nat} {xs ys : List Char}
    (hx : ∀ c ∈ xs.head?, c.isDigit = false) (hy : ∀ c ∈ ys.head?, c.isDigit = false)
    (h : (toString m).toList ++ xs = (toString n).toList ++ ys) : m = n ∧ xs = ys := by
  have hstop : ∀ {cs : List Char}, (∀ c ∈ cs.head?, c.isDigit = false) →
      cs.takeWhile Char.isDigit = [] := by
    intro cs hcs
    cases cs with
    | nil => rfl
    | cons c cs => exact List.takeWhile_cons_of_neg (Bool.eq_false_iff.mp (hcs c rfl))
  have htake := congrArg (List.takeWhile Char.isDigit) h
  rw [List.takeWhile_append_of_pos fun _ => isDigit_of_mem_toString,
    List.takeWhile_append_of_pos fun _ => isDigit_of_mem_toString, hstop hx, hstop hy,
    List.append_nil, List.append_nil] at htake
  rw [htake] at h
  exact ⟨toString_inj.mp (String.toList_inj.mp htake), List.append_cancel_left h⟩

/-- A number starts with a digit. -/
theorem toString_append_ne_cons {n : Nat} {c : Char} (hc : c.isDigit = false)
    (xs ys : List Char) : (toString n).toList ++ xs ≠ c :: ys := by
  obtain ⟨d, ds, hdigits⟩ := List.exists_cons_of_ne_nil (toString_ne_nil n)
  intro h
  rw [hdigits] at h
  obtain rfl : d = c := (List.cons.inj h).1
  have hd := isDigit_of_mem_toString (hdigits ▸ List.mem_cons_self ..)
  exact Bool.false_ne_true (hc.symm.trans hd)

end VcenterAccess.Text
