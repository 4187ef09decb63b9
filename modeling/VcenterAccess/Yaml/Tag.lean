import VcenterAccess.Text.Hex
import VcenterAccess.Yaml.Cell

/-!
# Tags, anchors and directives

The words of a YAML stream that are neither scalars nor brackets.  A tag is a
handle and a suffix, or, between angle brackets, the whole tag as a suffix.
-/

namespace VcenterAccess.Yaml

open Text

/-- Read a name of at least one character. -/
def readName? (cells : List Cell) : Option (String × List Cell) :=
  match spanChars isNameChar cells with
  | ([], _) => none
  | (name, rest) => some (String.ofList name, rest)

/-- Read the name of an anchor from behind its indicator. -/
def readAnchor? (cells : List Cell) : Option (String × List Cell) := do
  let (name, rest) ← readName? cells
  let c := headChar rest
  if endsWord c || "?:,]\x7d%@\x60".toList.contains c then some (name, rest) else none

/-- A tag handle, `!`, `!!` or `!name!`.  In a directive it has to be complete. -/
def readHandle? (directive : Bool) (cells : List Cell) : Option (List Char × List Cell) :=
  if headChar cells ≠ '!' then none
  else
    let (name, rest) := spanChars isNameChar (cells.drop 1)
    if headChar rest = '!' then some ('!' :: (name ++ ['!']), rest.drop 1)
    else if directive && !name.isEmpty then none
    else some ('!' :: name, rest)

/-- A character of tags other than the percent sign.  Between angle brackets
commas and square brackets are allowed too. -/
def isTagChar (verbatim : Bool) (c : Char) : Bool :=
  isNameChar c || ";/?:@&=+$.!~*'()".toList.contains c
    || (verbatim && (c = ',' || c = '[' || c = ']'))

/-- How many bytes the first byte of a character announces. -/
def byteCount? (b : Nat) : Option Nat :=
  if b < 0x80 then some 1
  else if b / 0x20 = 0x6 then some 2
  else if b / 0x10 = 0xE then some 3
  else if b / 0x8 = 0x1E then some 4
  else none

/-- Read the text of a tag.  Bytes after a percent sign have to line up to
characters; one that is not ASCII is kept as U+FFFD for each of its bytes, which
no known tag holds.  `pending` counts the bytes a character still lacks. -/
def readTagText? (verbatim : Bool) (pending : Nat) : List Cell → Option (List Char × List Cell)
  | [] => if pending = 0 then some ([], []) else none
  | cell :: rest =>
      if cell.char = '%' then
        match rest with
        | high :: low :: rest' =>
            match Hex.value? high.char, Hex.value? low.char with
            | some h, some l =>
                let b := h * 16 + l
                if pending = 0 then
                  (byteCount? b).bind fun n =>
                    (readTagText? verbatim (n - 1) rest').map fun (text, rest'') =>
                      ((if b < 0x80 then Char.ofNat b else '\uFFFD') :: text, rest'')
                else if b / 0x40 = 2 then
                  (readTagText? verbatim (pending - 1) rest').map fun (text, rest'') =>
                    ('\uFFFD' :: text, rest'')
                else none
            | _, _ => none
        | _ => none
      else if pending ≠ 0 then none
      else if isTagChar verbatim cell.char then
        (readTagText? verbatim 0 rest).map fun (text, rest') => (cell.char :: text, rest')
      else some ([], cell :: rest)
termination_by structural cells => cells

/-- Whether a handle has a closing exclamation mark of its own. -/
def isFullHandle (handle : List Char) : Bool := handle.length > 1 && handle.getLast? = some '!'

/-- Read a tag from its exclamation mark on: the handle and the suffix. -/
def readTag? (flow : Bool) (cells : List Cell) : Option ((String × String) × List Cell) := do
  let (handle, suffix, rest) ←
    if charAt cells 1 = '<' then do
      let (text, rest) ← readTagText? true 0 (cells.drop 2)
      if text.isEmpty || headChar rest ≠ '>' then none else some ([], text, rest.drop 1)
    else do
      let (handle, rest) ← readHandle? false cells
      let (text, rest) ← readTagText? false 0 rest
      if isFullHandle handle then
        if text.isEmpty then none else some (handle, text, rest)
      else
        let suffix := handle.drop 1 ++ text
        if suffix.isEmpty then some ([], ['!'], rest) else some (['!'], suffix, rest)
  if (flow && headChar rest = ',') || endsWord (headChar rest) then
    some ((String.ofList handle, String.ofList suffix), rest)
  else none

/-- A directive. -/
inductive Directive where
  /-- The version of YAML. -/
  | version (major minor : Nat)
  /-- What a tag handle stands for. -/
  | tag (handle start : String)

/-- Read a number of at most nine digits. -/
def readNumber? (cells : List Cell) : Option (Nat × List Cell) :=
  match spanChars (fun c => '0' ≤ c && c ≤ '9') cells with
  | ([], _) => none
  | (digits, rest) =>
      if digits.length > 9 then none
      else some (digits.foldl (fun n d => n * 10 + (d.toNat - 0x30)) 0, rest)

/-- Pass blanks. -/
def passBlanks (cells : List Cell) : List Cell := cells.dropWhile fun cell => isBlank cell.char

/-- Read a directive from behind its percent sign to the end of its line. -/
def readDirective? (cells : List Cell) : Option (Directive × List Cell) := do
  let (name, rest) ← readName? cells
  if !endsWord (headChar rest) then none
  let rest := passBlanks rest
  let (directive, rest) ←
    if name = "YAML" then do
      let (major, rest) ← readNumber? rest
      if headChar rest ≠ '.' then none
      let (minor, rest) ← readNumber? (rest.drop 1)
      some (Directive.version major minor, rest)
    else if name = "TAG" then do
      let (handle, rest) ← readHandle? true rest
      if !isBlank (headChar rest) then none
      let (start, rest) ← readTagText? true 0 (passBlanks rest)
      if start.isEmpty || !endsWord (headChar rest) then none
      some (Directive.tag (String.ofList handle) (String.ofList start), rest)
    else none
  let rest := passBlanks rest
  let rest := if headChar rest = '#' then rest.dropWhile fun cell => !endsLine cell.char else rest
  if isBreak (headChar rest) then some (directive, rest.drop 1)
  else if isEnd (headChar rest) then some (directive, rest)
  else none

end VcenterAccess.Yaml
