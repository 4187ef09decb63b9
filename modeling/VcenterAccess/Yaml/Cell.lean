/-!
# The characters of a YAML stream

A YAML stream is read as a list of cells: characters with their place in the
stream.  CR, CR LF and NEL become a line feed; the line and the paragraph
separator stay themselves, and all of these end a line.  The last cell is a NUL
that marks the end, a character no stream may hold.

`Cell.ofText?` fails on the characters that YAML forbids: controls other than
tab and line breaks, surrogates, U+FFFE and U+FFFF.
-/

namespace VcenterAccess.Yaml

/-- A character and where it stands. -/
structure Cell where
  char : Char
  /-- How many characters stand before it. -/
  index : Nat
  /-- How many lines stand before its line. -/
  line : Nat
  /-- How many characters stand before it on its line. -/
  column : Nat
deriving DecidableEq, Repr

/-- The mark of the end of the stream. -/
def endMark : Char := '\x00'

/-- The byte order mark. -/
def byteOrderMark : Char := '\uFEFF'

/-- The characters a stream may hold. -/
def isAllowed (c : Char) : Bool :=
  let n := c.toNat
  n = 0x9 || n = 0xA || n = 0xD || n = 0x85 || (0x20 ≤ n && n ≤ 0x7E)
    || (0xA0 ≤ n && n ≤ 0xFFFD) || 0x10000 ≤ n

/-- What a line break is read as. -/
def lineBreak? (c : Char) : Option Char :=
  if c = '\n' || c = '\r' || c = '\u0085' then some '\n'
  else if c = '\u2028' || c = '\u2029' then some c
  else none

/-- Lay characters out from a place on. -/
def Cell.layOut? (index line column : Nat) : List Char → Option (List Cell)
  | [] => some [⟨endMark, index, line, column⟩]
  | '\r' :: '\n' :: cs => (layOut? (index + 2) (line + 1) 0 cs).map (⟨'\n', index, line, column⟩ :: ·)
  | c :: cs =>
      if !isAllowed c then none
      else
        match lineBreak? c with
        | some b => (layOut? (index + 1) (line + 1) 0 cs).map (⟨b, index, line, column⟩ :: ·)
        | none => (layOut? (index + 1) line (column + 1) cs).map (⟨c, index, line, column⟩ :: ·)

/-- The cells of a stream. -/
def Cell.ofText? (s : String) : Option (List Cell) := layOut? 0 0 0 s.toList

/-! ## Classes of characters in a laid out stream -/

/-- A space or a tab. -/
def isBlank (c : Char) : Bool := c = ' ' || c = '\t'

/-- A line break. -/
def isBreak (c : Char) : Bool := c = '\n' || c = '\u2028' || c = '\u2029'

/-- The end of the stream. -/
def isEnd (c : Char) : Bool := c = endMark

/-- The end of a line or of the stream. -/
def endsLine (c : Char) : Bool := isBreak c || isEnd c

/-- The end of a word. -/
def endsWord (c : Char) : Bool := isBlank c || endsLine c

/-- A character of names: anchors, tag handles, directives. -/
def isNameChar (c : Char) : Bool :=
  ('0' ≤ c && c ≤ '9') || ('A' ≤ c && c ≤ 'Z') || ('a' ≤ c && c ≤ 'z') || c = '_' || c = '-'

/-- The character `n` places ahead. -/
def charAt (cells : List Cell) (n : Nat) : Char := (cells[n]?.map Cell.char).getD endMark

/-- The next character. -/
def headChar (cells : List Cell) : Char := charAt cells 0

/-- Whether a document marker, three times `c`, stands at the start of this line. -/
def atMarker (c : Char) (cells : List Cell) : Bool :=
  (cells.head?.any fun cell => cell.column = 0)
    && charAt cells 0 = c && charAt cells 1 = c && charAt cells 2 = c && endsWord (charAt cells 3)

/-- Whether either document marker stands at the start of this line. -/
def atAnyMarker (cells : List Cell) : Bool := atMarker '-' cells || atMarker '.' cells

/-- The longest run of cells whose characters satisfy `p`, and the rest. -/
def spanChars (p : Char → Bool) (cells : List Cell) : List Char × List Cell :=
  ((cells.takeWhile fun cell => p cell.char).map Cell.char,
    cells.dropWhile fun cell => p cell.char)

end VcenterAccess.Yaml
