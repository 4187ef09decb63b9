import VcenterAccess.Text.Hex
import VcenterAccess.Yaml.Cell

/-!
# Reading scalars

Plain, quoted and block scalars may run over several lines, and their line
breaks are folded: a single break is read as a space, of several breaks the
first is dropped.  Each reader walks the cells one by one and keeps in its state
the blanks and breaks whose fate the next character decides.
-/

namespace VcenterAccess.Yaml

open Text

/-! ## Folding -/

/-- A scalar read so far, and the white space after its last character.  All
texts are in reverse. -/
structure Folding where
  /-- The scalar. -/
  text : List Char := []
  /-- Blanks on the line of the last character. -/
  blanks : List Char := []
  /-- The first line break. -/
  firstBreak : Option Char := none
  /-- The line breaks after the first. -/
  moreBreaks : List Char := []
  /-- Whether a line break was passed. -/
  onNewLine : Bool := false

namespace Folding

/-- Pass a blank.  At the start of a line it is indentation. -/
def blank (f : Folding) (c : Char) : Folding :=
  if f.onNewLine then f else { f with blanks := c :: f.blanks }

/-- Pass a line break. -/
def lineBreak (f : Folding) (c : Char) : Folding :=
  if f.onNewLine then { f with moreBreaks := c :: f.moreBreaks }
  else { f with blanks := [], firstBreak := some c, onNewLine := true }

/-- Settle the white space in front of a further character. -/
def settle (f : Folding) : Folding :=
  if f.onNewLine then
    let joined :=
      match f.firstBreak, f.moreBreaks with
      | some '\n', [] => ' ' :: f.text
      | some '\n', more => more ++ f.text
      | first, more => more ++ first.toList ++ f.text
    { text := joined }
  else { text := f.blanks ++ f.text }

/-- Add a character. -/
def push (f : Folding) (c : Char) : Folding := { f with text := c :: f.text }

/-- The scalar without white space at its end. -/
def toString (f : Folding) : String := String.ofList f.text.reverse

end Folding

/-! ## Plain scalars -/

/-- Whether a colon in front of `c` is refused inside a flow collection. -/
def refusedAfterColon (c : Char) : Bool :=
  c = ',' || c = '?' || c = '[' || c = ']' || c = '\x7b' || c = '\x7d'

/-- Whether a plain scalar ends in front of these cells. -/
def endsPlain (flow : Bool) (cells : List Cell) : Bool :=
  let c := headChar cells
  (c = ':' && endsWord (charAt cells 1))
    || (flow && (c = ',' || c = '[' || c = ']' || c = '\x7b' || c = '\x7d'))

/-- Read a plain scalar.  Outside flow collections its further lines have at
least `indent` columns in front.  `fresh` says that white space was just passed. -/
def readPlain (flow : Bool) (indent : Int) (f : Folding) (fresh : Bool) :
    List Cell → Option (Folding × List Cell)
  | [] => some (f, [])
  | cell :: rest =>
      let c := cell.char
      if isBlank c then
        if f.onNewLine && cell.column < indent && c = '\t' then none
        else readPlain flow indent (f.blank c) true rest
      else if isBreak c then readPlain flow indent (f.lineBreak c) true rest
      else if isEnd c then some (f, cell :: rest)
      else if fresh && ((!flow && cell.column < indent) || c = '#' || atAnyMarker (cell :: rest))
      then some (f, cell :: rest)
      else if flow && c = ':' && refusedAfterColon (headChar rest) then none
      else if endsPlain flow (cell :: rest) then some (f, cell :: rest)
      else readPlain flow indent (f.settle.push c) false rest
termination_by structural cells => cells

/-! ## Quoted scalars -/

/-- What a reader of a quoted scalar is in. -/
inductive QuotedMode where
  | text
  /-- Just after a backslash. -/
  | escape
  /-- Inside a code point with some digits to come, given those read. -/
  | digits (left value : Nat)

/-- The character of a one-letter escape. -/
def escaped? (c : Char) : Option Char :=
  match c with
  | '0' => some '\x00'
  | 'a' => some '\x07'
  | 'b' => some '\x08'
  | 't' | '\t' => some '\t'
  | 'n' => some '\n'
  | 'v' => some '\x0b'
  | 'f' => some '\x0c'
  | 'r' => some '\r'
  | 'e' => some '\x1b'
  | ' ' => some ' '
  | '"' => some '"'
  | '/' => some '/'
  | '\\' => some '\\'
  | 'N' => some '\u0085'
  | '_' => some '\u00a0'
  | 'L' => some '\u2028'
  | 'P' => some '\u2029'
  | _ => none

/-- The number of digits of a code point escape. -/
def codePointDigits? (c : Char) : Option Nat :=
  match c with
  | 'x' => some 2
  | 'u' => some 4
  | 'U' => some 8
  | _ => none

/-- Whether a number is the code point of a character. -/
def isCodePoint (n : Nat) : Bool := n < 0xD800 || (0xE000 ≤ n && n < 0x110000)

/-- Read a quoted scalar from behind its opening quote. -/
def readQuoted (single : Bool) (f : Folding) (mode : QuotedMode) :
    List Cell → Option (String × List Cell)
  | [] => none
  | cell :: rest =>
      let c := cell.char
      match mode with
      | .escape =>
          if isBreak c then readQuoted single { f with onNewLine := true } .text rest
          else
            match escaped? c, codePointDigits? c with
            | some e, _ => readQuoted single (f.push e) .text rest
            | none, some n => readQuoted single f (.digits n 0) rest
            | none, none => none
      | .digits left value =>
          match Hex.value? c with
          | none => none
          | some d =>
              let value := value * 16 + d
              if left ≤ 1 then
                if isCodePoint value then readQuoted single (f.push (Char.ofNat value)) .text rest
                else none
              else readQuoted single f (.digits (left - 1) value) rest
      | .text =>
          if isEnd c || atAnyMarker (cell :: rest) then none
          else if isBlank c then readQuoted single (f.blank c) .text rest
          else if isBreak c then readQuoted single (f.lineBreak c) .text rest
          else
            let f := f.settle
            if single then
              if c = '\'' then
                match rest with
                | next :: rest' =>
                    if next.char = '\'' then readQuoted single (f.push '\'') .text rest'
                    else some (f.toString, rest)
                | [] => some (f.toString, rest)
              else readQuoted single (f.push c) .text rest
            else if c = '"' then some (f.toString, rest)
            else if c = '\\' then readQuoted single f .escape rest
            else readQuoted single (f.push c) .text rest
termination_by structural cells => cells

/-! ## Block scalars -/

/-- What happens to the line breaks at the end of a block scalar. -/
inductive Chomping where
  /-- All are dropped. -/
  | strip
  /-- The first stays. -/
  | clip
  /-- All stay. -/
  | keep
deriving DecidableEq, Repr

/-- The chomping a character asks for. -/
def chomping? (c : Char) : Option Chomping :=
  if c = '+' then some .keep else if c = '-' then some .strip else none

/-- The indentation a character asks for. -/
def indentDigit? (c : Char) : Option Nat :=
  if '0' ≤ c && c ≤ '9' then some (c.toNat - 0x30) else none

/-- Read the header of a block scalar from behind its indicator: chomping and
indentation in either order, then nothing but a comment. -/
def readBlockHeader (cells : List Cell) : Option (Chomping × Nat × List Cell) := do
  let c := headChar cells
  let (chomping, increment, rest) ←
    match chomping? c, indentDigit? c with
    | some k, _ =>
        match indentDigit? (charAt cells 1) with
        | some n => if n = 0 then none else some (k, n, cells.drop 2)
        | none => some (k, 0, cells.drop 1)
    | none, some n =>
        if n = 0 then none
        else
          match chomping? (charAt cells 1) with
          | some k => some (k, n, cells.drop 2)
          | none => some (.clip, n, cells.drop 1)
    | none, none => some (.clip, 0, cells)
  let rest := rest.dropWhile fun cell => isBlank cell.char
  let rest := if headChar rest = '#' then rest.dropWhile fun cell => !endsLine cell.char else rest
  if !endsLine (headChar rest) then none
  else if isBreak (headChar rest) then some (chomping, increment, rest.drop 1)
  else some (chomping, increment, rest)

/-- A block scalar read so far.  All texts are in reverse. -/
structure BlockText where
  /-- The lines so far. -/
  text : List Char := []
  /-- The break at the end of the last line. -/
  lastBreak : Option Char := none
  /-- The breaks of the empty lines after it. -/
  emptyLines : List Char := []
  /-- Whether the last line started with a blank. -/
  startedBlank : Bool := false
  /-- The indentation, zero while it is not known. -/
  indent : Nat := 0
  /-- The widest indentation of the empty lines. -/
  widest : Nat := 0
  /-- Whether the reader is inside a line. -/
  inLine : Bool := false

namespace BlockText

/-- Whether a cell stands where indentation is still expected. -/
def awaitsIndent (b : BlockText) (cell : Cell) : Bool := b.indent = 0 || cell.column < b.indent

/-- Take note of the end of an indentation. -/
def widen (b : BlockText) (cell : Cell) : BlockText := { b with widest := max b.widest cell.column }

/-- Fix the indentation: that of the widest empty line or of the first line, and
more than that of the parent. -/
def fixIndent (b : BlockText) (parent : Int) : BlockText :=
  if b.indent = 0 then { b with indent := max (max b.widest (parent + 1).toNat) 1 } else b

/-- Start a line with its first character. -/
def startLine (folded : Bool) (b : BlockText) (c : Char) : BlockText :=
  let joined :=
    if folded && b.lastBreak = some '\n' && !b.startedBlank && !isBlank c then
      if b.emptyLines.isEmpty then ' ' :: b.text else b.text
    else b.lastBreak.toList ++ b.text
  { b with
    text := c :: (b.emptyLines ++ joined), lastBreak := none, emptyLines := [],
    startedBlank := isBlank c, inLine := true }

/-- The scalar with the breaks at its end chomped. -/
def toString (b : BlockText) (chomping : Chomping) : String :=
  let text := if chomping = .strip then b.text else b.lastBreak.toList ++ b.text
  let text := if chomping = .keep then b.emptyLines ++ text else text
  String.ofList text.reverse

end BlockText

/-- Read the lines of a block scalar in a collection with indentation `parent`. -/
def readBlock (folded : Bool) (parent : Int) (b : BlockText) :
    List Cell → Option (BlockText × List Cell)
  | [] => some (b, [])
  | cell :: rest =>
      let c := cell.char
      if b.inLine then
        if isBreak c then
          readBlock folded parent { b with lastBreak := some c, inLine := false, widest := 0 } rest
        else if isEnd c then some (b, cell :: rest)
        else readBlock folded parent { b with text := c :: b.text } rest
      else if b.awaitsIndent cell && c = ' ' then readBlock folded parent b rest
      else if b.awaitsIndent cell && c = '\t' then none
      else if isBreak c then
        readBlock folded parent { b.widen cell with emptyLines := c :: b.emptyLines } rest
      else
        let b := (b.widen cell).fixIndent parent
        if isEnd c || cell.column ≠ b.indent then some (b, cell :: rest)
        else readBlock folded parent (b.startLine folded c) rest
termination_by structural cells => cells

end VcenterAccess.Yaml
