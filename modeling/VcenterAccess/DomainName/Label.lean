import VcenterAccess.DomainName.Character
import VcenterAccess.DomainName.Mapping
import VcenterAccess.DomainName.Punycode
import VcenterAccess.Text.Composition
import VcenterAccess.Text.Strip

/-!
# Labels of domain names

A domain name is a sequence of labels with points between them.  A label in
Punycode starts with `xn--`; it has to stand for something that the mapping would
leave alone and that cannot be written in ASCII.  A label must not begin with a
mark, must not join where nothing is joined, and in a name with letters from right
to left all labels must have one direction each.
-/

namespace VcenterAccess.DomainName

open Text

/-! ## Joiners -/

/-- The zero width non-joiner. -/
def nonJoiner : Char := '\u200c'

/-- The zero width joiner. -/
def joiner : Char := '\u200d'

/-- The combining class of the signs that take a vowel away. -/
def viramaClass : Nat := 9

/-- Whether the joiners of a label have a reason to be there; `before` holds the
characters before the rest, the last one first.  Both are fine after a virama,
and a non-joiner is also fine between two letters that would join. -/
def joinersFit (before : List Char) : List Char → Bool
  | [] => true
  | c :: cs =>
      let afterVirama := before.head?.any fun b => combiningClass b == viramaClass
      let separates :=
        ((before.dropWhile isNonspacing).head?.any joinsNext)
          && ((cs.dropWhile isNonspacing).head?.any joinsPrevious)
      (if c = joiner then afterVirama else if c = nonJoiner then afterVirama || separates else true)
        && joinersFit (c :: before) cs
termination_by structural cs => cs

/-! ## Directions -/

/-- Whether a character makes its name one with letters from right to left. -/
def isRightToLeft (c : Char) : Bool :=
  direction c = .rightToLeft || direction c = .arabicNumber

/-- Whether a label of a name with letters from right to left is written in one
direction.  The first character sets it, no character may go against it, and the
last one that takes a place of its own must be a letter or a digit. -/
def hasOneDirection (label : List Char) : Bool :=
  let directions := label.map direction
  let last := (directions.reverse.dropWhile (· = .nonspacing)).head?
  match directions.head? with
  | none => true
  | some .leftToRight =>
      directions.all (fun d => d ≠ .rightToLeft && d ≠ .arabicNumber)
        && last.any fun d => d = .leftToRight || d = .europeanNumber
  | some .rightToLeft =>
      directions.all (fun d => d ≠ .leftToRight)
        && last.any (fun d => d = .rightToLeft || d = .arabicNumber || d = .europeanNumber)
        && !(directions.contains .arabicNumber && directions.contains .europeanNumber)
  | some _ => false

/-! ## Labels in ASCII -/

/-- How a label in Punycode starts. -/
def punycodeStart : List Char := "xn--".toList

/-- Whether a character is one of ASCII. -/
def isAscii (c : Char) : Bool := c.toNat < 0x80

/-- The label that is meant, or nothing if its Punycode is wrong. -/
def decodeLabel? (label : List Char) : Option (List Char) :=
  match stripStart? punycodeStart label with
  | none => some label
  | some code => do
      let decoded ← Punycode.decode? code
      guard (!decoded.all isAscii)
      guard (decoded.all isValid && compose decoded = decoded)
      guard (stripStart? punycodeStart decoded).isNone
      return decoded

/-- A label in ASCII. -/
def encodeLabel (label : List Char) : List Char :=
  if label.all isAscii then label else punycodeStart ++ Punycode.encode label

/-- Whether a label may occur in a name. -/
def isWellFormed (label : List Char) : Bool := !label.head?.any isMark && joinersFit [] label

example : decodeLabel? "xn--vc".toList = none := by decide +kernel
example : encodeLabel "vc-1".toList = "vc-1".toList := by decide

end VcenterAccess.DomainName
