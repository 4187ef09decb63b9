import VcenterAccess.Text.Hex
import VcenterAccess.Text.Pieces
import VcenterAccess.Text.Ranges

/-!
# Packed tables

Long tables over code points are written as lines of words: a blank between each
two words, numbers in hexadecimal digits, a range as its ends with a hyphen
between them.  Here they are read.
-/

namespace VcenterAccess.Text.Packed

/-- The number that the digits at the start make, and what stands after them. -/
def numeral (n : Nat) : List Char → Nat × List Char
  | [] => (n, [])
  | c :: cs =>
      match Hex.value? c with
      | some d => numeral (n * 16 + d) cs
      | none => (n, c :: cs)
termination_by structural cs => cs

/-- The number that a word of digits stands for. -/
def number (cs : List Char) : Nat := (numeral 0 cs).1

/-- A range at the start, or a single number as the range from it to itself, and
what stands after it. -/
def range (cs : List Char) : (Nat × Nat) × List Char :=
  match numeral 0 cs with
  | (first, '-' :: rest) => let (last, rest) := numeral 0 rest; ((first, last), rest)
  | (n, rest) => ((n, n), rest)

/-- The words of a table. -/
def words (table : List String) : List (List Char) :=
  table.flatMap fun line => pieces ' ' line.toList

/-- A table of ranges. -/
def ranges (table : List String) : List (Nat × Nat) := (words table).map fun w => (range w).1

example : ranges ["41-5A 7F"] = [(0x41, 0x5A), (0x7F, 0x7F)] := by decide

end VcenterAccess.Text.Packed
