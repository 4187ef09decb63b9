import VcenterAccess.Text.Ranges

/-!
# Blanks

The characters with the Unicode property `White_Space`, and the trimming of
texts.  `trim` cuts blanks at both ends, `trimNewlines` cuts line feeds at the
end and nothing else.
-/

namespace VcenterAccess.Text

/-- The blank code points, as closed ranges in increasing order. -/
def blankRanges : List (Nat × Nat) :=
  [(0x9, 0xD), (0x20, 0x20), (0x85, 0x85), (0xA0, 0xA0), (0x1680, 0x1680), (0x2000, 0x200A),
  (0x2028, 0x2029), (0x202F, 0x202F), (0x205F, 0x205F), (0x3000, 0x3000)]

/-- Whether a character is blank. -/
def isBlank (c : Char) : Bool := inRanges blankRanges c.toNat

/-- Cut the longest end whose characters all satisfy `p`. -/
def dropEndWhile (p : Char → Bool) : List Char → List Char
  | [] => []
  | c :: cs =>
      match dropEndWhile p cs with
      | [] => if p c then [] else [c]
      | rest => c :: rest
termination_by structural cs => cs

/-- Cut the blanks at both ends. -/
def trim (cs : List Char) : List Char := dropEndWhile isBlank (cs.dropWhile isBlank)

/-- Cut the line feeds at the end. -/
def trimNewlines (cs : List Char) : List Char := dropEndWhile (· == '\n') cs

@[simp] theorem dropEndWhile_nil (p : Char → Bool) : dropEndWhile p [] = [] := rfl

/-- A last character in the class is cut, any other ends the cutting. -/
theorem dropEndWhile_concat (p : Char → Bool) (c : Char) :
    ∀ cs : List Char,
      dropEndWhile p (cs ++ [c]) = if p c then dropEndWhile p cs else cs ++ [c]
  | [] => by simp [dropEndWhile]
  | d :: cs => by
      have ih := dropEndWhile_concat p c cs
      by_cases h : p c
      · simp only [h, if_true] at ih
        simp [dropEndWhile, ih, h]
      · simp only [h, Bool.false_eq_true, if_false] at ih
        have hne : cs ++ [c] ≠ [] := by simp
        simp only [List.cons_append, dropEndWhile, ih, h, Bool.false_eq_true, if_false]

example : trim " \t\u00a0pem\u2028\n".toList = "pem".toList := by decide
example : trimNewlines "pw \r\n\n".toList = "pw \r".toList := by decide

end VcenterAccess.Text
