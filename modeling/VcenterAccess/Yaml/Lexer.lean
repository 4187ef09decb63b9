import VcenterAccess.Yaml.Scalar
import VcenterAccess.Yaml.Tag
import VcenterAccess.Yaml.Token

/-!
# From cells to tokens

The lexer turns indentation into tokens.  It keeps the indentation of every open
block collection, and for every open flow collection, and for the block context
around them, the place where a simple key may have started.  A simple key is
only known to be one when its colon is reached; its token, and where needed the
start of a block mapping, are then put in at that place.

A simple key stays on one line and has at most 1024 characters.  Where only a
key can stand it is required, and its colon must follow.
-/

namespace VcenterAccess.Yaml

/-- The place where a simple key may have started. -/
structure SimpleKey where
  /-- Whether there is such a place. -/
  possible : Bool := false
  /-- Whether nothing but a key can stand there. -/
  required : Bool := false
  /-- The number of tokens in front of it. -/
  token : Nat := 0
  /-- The number of characters in front of it. -/
  index : Nat := 0
  line : Nat := 0
  column : Nat := 0

/-- What the lexer has read. -/
structure Lexer where
  /-- The indentation of the innermost block collection, -1 outside of all. -/
  indent : Int := -1
  /-- The indentations around it. -/
  outerIndents : List Int := []
  /-- Whether a simple key may start here. -/
  keyAllowed : Bool := true
  /-- The possible simple key in the innermost collection. -/
  key : SimpleKey := {}
  /-- Those of the flow collections around it and of the block context. -/
  outerKeys : List SimpleKey := []
  /-- The tokens, the last one first. -/
  tokens : List Token := []
  /-- The number of tokens. -/
  count : Nat := 0

namespace Lexer

/-- Whether the lexer is inside a flow collection. -/
def inFlow (lx : Lexer) : Bool := !lx.outerKeys.isEmpty

/-- Add a token. -/
def push (lx : Lexer) (t : Token) : Lexer :=
  { lx with tokens := t :: lx.tokens, count := lx.count + 1 }

/-- Put a token in behind the first `n` tokens. -/
def putAt (lx : Lexer) (n : Nat) (t : Token) : Lexer :=
  { lx with tokens := lx.tokens.insertIdx (lx.count - n) t, count := lx.count + 1 }

/-- Open a block collection, with its token behind the first `n`, if the column
is deeper than the indentation. -/
def openBlock (lx : Lexer) (column n : Nat) (t : Token) : Lexer :=
  if !lx.inFlow && lx.indent < column then
    { lx.putAt n t with indent := column, outerIndents := lx.indent :: lx.outerIndents }
  else lx

/-- Close the block collections deeper than a column, given the indentations
from the inside out. -/
def closeBlocks (column : Int) : List Int → Lexer → Lexer
  | [], lx => lx
  | outer :: rest, lx =>
      if column < lx.indent then
        closeBlocks column rest { lx.push .blockEnd with indent := outer, outerIndents := rest }
      else lx

/-- Close the block collections deeper than a column.  Inside a flow collection
indentation does not count. -/
def closeBlocksBelow (lx : Lexer) (column : Int) : Lexer :=
  if lx.inFlow then lx else closeBlocks column lx.outerIndents lx

/-- Give up the possible simple key, which must not be required. -/
def dropKey? (lx : Lexer) : Option Lexer :=
  if lx.key.possible && lx.key.required then none
  else some { lx with key := { lx.key with possible := false } }

/-- Take note that a simple key may start here. -/
def saveKey? (lx : Lexer) (cell : Cell) : Option Lexer :=
  if lx.keyAllowed then
    lx.dropKey?.map fun lx =>
      { lx with key :=
        { possible := true, required := !lx.inFlow && lx.indent = cell.column, token := lx.count,
          index := cell.index, line := cell.line, column := cell.column } }
  else some lx

/-- A key that is on another line or too far back is none.  It must not be
required. -/
def expireKey? (cell : Cell) (k : SimpleKey) : Option SimpleKey :=
  if k.possible && (k.line < cell.line || k.index + 1024 < cell.index) then
    if k.required then none else some { k with possible := false }
  else some k

/-- Let all keys expire that have to. -/
def expireKeys? (lx : Lexer) (cell : Cell) : Option Lexer := do
  let key ← expireKey? cell lx.key
  let outerKeys ← lx.outerKeys.mapM (expireKey? cell)
  return { lx with key, outerKeys }

/-- Pass white space and comments.  Outside flow collections a new line may start
a key, and a tab is no white space where a key may start.  A byte order mark at the
start of a line is passed too, but takes a column of it.  The answer says whether a
key may start. -/
def passSpace (flow allowed comment : Bool) : List Cell → Bool × List Cell
  | [] => (allowed, [])
  | cell :: rest =>
      let c := cell.char
      if isBreak c then passSpace flow (allowed || !flow) false rest
      else if isEnd c then (allowed, cell :: rest)
      else if comment then passSpace flow allowed true rest
      else if cell.column = 0 && c = byteOrderMark then passSpace flow allowed false rest
      else if c = ' ' || (c = '\t' && (flow || !allowed)) then passSpace flow allowed false rest
      else if c = '#' then passSpace flow allowed true rest
      else (allowed, cell :: rest)
termination_by structural cells => cells

/-- Close everything in front of a document marker or a directive. -/
def endBlocks? (lx : Lexer) : Option Lexer :=
  (lx.closeBlocksBelow (-1)).dropKey?.map fun lx => { lx with keyAllowed := false }

/-- Add a token that may be, or may start, a simple key. -/
def pushNode? (lx : Lexer) (cell : Cell) (t : Token) : Option Lexer :=
  (lx.saveKey? cell).map fun lx => ({ lx with keyAllowed := false } : Lexer).push t

/-- Open a flow collection. -/
def openFlow? (lx : Lexer) (cell : Cell) (t : Token) : Option Lexer :=
  (lx.saveKey? cell).map fun lx =>
    ({ lx with key := {}, outerKeys := lx.key :: lx.outerKeys, keyAllowed := true } : Lexer).push t

/-- Close a flow collection. -/
def closeFlow? (lx : Lexer) (t : Token) : Option Lexer :=
  lx.dropKey?.map fun lx =>
    let lx :=
      match lx.outerKeys with
      | [] => lx
      | key :: outerKeys => { lx with key, outerKeys }
    ({ lx with keyAllowed := false } : Lexer).push t

/-- A comma between the items of a flow collection. -/
def flowEntry? (lx : Lexer) : Option Lexer :=
  lx.dropKey?.map fun lx => ({ lx with keyAllowed := true } : Lexer).push .flowEntry

/-- A dash in front of an item of a block sequence. -/
def blockEntry? (lx : Lexer) (cell : Cell) : Option Lexer :=
  if !lx.inFlow && !lx.keyAllowed then none
  else
    (lx.openBlock cell.column lx.count .blockSequenceStart).dropKey?.map fun lx =>
      ({ lx with keyAllowed := true } : Lexer).push .blockEntry

/-- A question mark in front of a key. -/
def explicitKey? (lx : Lexer) (cell : Cell) : Option Lexer :=
  if !lx.inFlow && !lx.keyAllowed then none
  else
    (lx.openBlock cell.column lx.count .blockMappingStart).dropKey?.map fun lx =>
      ({ lx with keyAllowed := !lx.inFlow } : Lexer).push .key

/-- A colon in front of a value. -/
def value? (lx : Lexer) (cell : Cell) : Option Lexer :=
  if lx.key.possible then
    let k := lx.key
    let lx := (lx.putAt k.token .key).openBlock k.column k.token .blockMappingStart
    some (({ lx with key := { k with possible := false }, keyAllowed := false } : Lexer).push .value)
  else if !lx.inFlow && !lx.keyAllowed then none
  else
    let lx := lx.openBlock cell.column lx.count .blockMappingStart
    some (({ lx with keyAllowed := !lx.inFlow } : Lexer).push .value)

/-- A block scalar from behind its indicator. -/
def blockScalar? (lx : Lexer) (folded : Bool) (cells : List Cell) : Option (Lexer × List Cell) := do
  let lx ← lx.dropKey?
  let (chomping, increment, rest) ← readBlockHeader cells
  let indent := if increment = 0 then 0 else (max lx.indent 0).toNat + increment
  let (b, rest) ← readBlock folded lx.indent { indent } rest
  let style := if folded then ScalarStyle.folded else .literal
  return (({ lx with keyAllowed := true } : Lexer).push (.scalar style (b.toString chomping)), rest)

/-- A quoted scalar from behind its opening quote. -/
def quotedScalar? (lx : Lexer) (cell : Cell) (single : Bool) (cells : List Cell) :
    Option (Lexer × List Cell) := do
  let lx ← lx.saveKey? cell
  let (text, rest) ← readQuoted single {} .text cells
  return (({ lx with keyAllowed := false } : Lexer).push (.scalar .quoted text), rest)

/-- A plain scalar.  If it ends behind a line break a key may start there. -/
def plainScalar? (lx : Lexer) (cell : Cell) (cells : List Cell) : Option (Lexer × List Cell) := do
  let lx ← lx.saveKey? cell
  let (f, rest) ← readPlain lx.inFlow (lx.indent + 1) {} false cells
  return (({ lx with keyAllowed := f.onNewLine } : Lexer).push (.scalar .plain f.toString), rest)

/-- Whether a plain scalar can start with `c` in front of `next`. -/
def startsPlain (flow : Bool) (c next : Char) : Bool :=
  (!endsWord c && !("-?:,[]\x7b\x7d#&*!|>'\"%@\x60".toList.contains c))
    || (c = '-' && !isBlank next)
    || (!flow && (c = '?' || c = ':') && !endsWord next)

/-- Read the next token, which starts at the first cell.  Every token takes at
least one cell. -/
def readToken? (lx : Lexer) (cell : Cell) (rest : List Cell) : Option (Lexer × List Cell) :=
  let c := cell.char
  let next := headChar rest
  let cells := cell :: rest
  if cell.column = 0 && c = '%' then do
    let lx ← lx.endBlocks?
    let (directive, rest) ← readDirective? rest
    match directive with
    | .version major minor => return (lx.push (.version major minor), rest)
    | .tag handle start => return (lx.push (.tagDirective handle start), rest)
  else if atMarker '-' cells then
    lx.endBlocks?.map fun lx => (lx.push .documentStart, cells.drop 3)
  else if atMarker '.' cells then
    lx.endBlocks?.map fun lx => (lx.push .documentEnd, cells.drop 3)
  else if c = '[' then (lx.openFlow? cell .flowSequenceStart).map (·, rest)
  else if c = '\x7b' then (lx.openFlow? cell .flowMappingStart).map (·, rest)
  else if c = ']' then (lx.closeFlow? .flowSequenceEnd).map (·, rest)
  else if c = '\x7d' then (lx.closeFlow? .flowMappingEnd).map (·, rest)
  else if c = ',' then lx.flowEntry?.map (·, rest)
  else if c = '-' && endsWord next then (lx.blockEntry? cell).map (·, rest)
  else if c = '?' && (lx.inFlow || endsWord next) then (lx.explicitKey? cell).map (·, rest)
  else if c = ':' && (lx.inFlow || endsWord next) then (lx.value? cell).map (·, rest)
  else if c = '*' then do
    let (name, rest) ← readAnchor? rest
    return (← lx.pushNode? cell (.alias name), rest)
  else if c = '&' then do
    let (name, rest) ← readAnchor? rest
    return (← lx.pushNode? cell (.anchor name), rest)
  else if c = '!' then do
    let ((handle, suffix), rest) ← readTag? lx.inFlow cells
    return (← lx.pushNode? cell (.tag handle suffix), rest)
  else if c = '|' && !lx.inFlow then lx.blockScalar? false rest
  else if c = '>' && !lx.inFlow then lx.blockScalar? true rest
  else if c = '\'' then lx.quotedScalar? cell true rest
  else if c = '"' then lx.quotedScalar? cell false rest
  else if startsPlain lx.inFlow c next then lx.plainScalar? cell cells
  else none

/-- Close what is open at the end of the stream and list the tokens. -/
def finish? (lx : Lexer) : Option (List Token) :=
  (lx.closeBlocksBelow (-1)).dropKey?.map fun lx => lx.tokens.reverse

/-- Read all tokens.  A step that takes no cell would never end and is refused. -/
def readTokens? (lx : Lexer) (cells : List Cell) : Option (List Token) :=
  match passSpace lx.inFlow lx.keyAllowed false cells with
  | (_, []) => none
  | (allowed, cell :: rest) =>
      match ({ lx with keyAllowed := allowed } : Lexer).expireKeys? cell with
      | none => none
      | some lx =>
          let lx := lx.closeBlocksBelow cell.column
          if isEnd cell.char then lx.finish?
          else
            match lx.readToken? cell rest with
            | none => none
            | some (lx, rest') =>
                if rest'.length < cells.length then readTokens? lx rest' else none
termination_by cells.length

end Lexer

/-- The tokens of a stream, if it can be read. -/
def Token.ofText? (s : String) : Option (List Token) :=
  (Cell.ofText? s).bind fun cells => ({} : Lexer).readTokens? cells

end VcenterAccess.Yaml
