import VcenterAccess.Yaml.Document

/-!
# Decoding documents

What a YAML tree means depends on what is expected of it.  A *decoder* reads a
tree as a value of one type: `text`, `truth`, `unsigned`, `optional`, `list`,
`table` and `record`.  An alias is followed first, whatever is expected, and the
number of times this happens is bounded by the document, so that a small
document cannot stand for a huge value.
-/

namespace VcenterAccess.Yaml

/-- A step of decoding: it may fail, and it counts the aliases it may still
follow. -/
abbrev Decoding (α : Type) := StateT Nat Option α

/-- Reads a tree as a value. -/
abbrev Decoder (α : Type) := Document → Tree → Decoding α

namespace Decoder

variable {α : Type}

/-- Follow the alias a tree may be.  What an alias stands for is no alias. -/
def follow (d : Document) (t : Tree) : Decoding Tree :=
  match t with
  | .reference place => do
      let left ← get
      if left = 0 then failure
      set (left - 1)
      match d.at? place with
      | some t => pure t
      | none => failure
  | t => pure t

/-- Whether a plain text is a spelling of null. -/
def isNull (s : String) : Bool := s = "null" || s = "Null" || s = "NULL" || s = "~"

/-- The tag of null. -/
def nullTag : String := "tag:yaml.org,2002:null"

/-- The tag of truth values. -/
def boolTag : String := "tag:yaml.org,2002:bool"

/-- The tag of integers. -/
def intTag : String := "tag:yaml.org,2002:int"

/-- Any scalar is a text. -/
def text : Decoder String := fun d t => do
  match ← follow d t with
  | .scalar _ _ s => pure s
  | _ => failure

/-- A scalar may be read as something else than a text if it is plain, or a block
with the right tag. -/
def untexted? (expected : String) : Tree → Option String
  | .scalar tag style s =>
      if style = .plain || (style = .literal && tag = some expected) then some s else none
  | _ => none

/-- The spellings of a truth value. -/
def truth? (s : String) : Option Bool :=
  if s = "true" || s = "True" || s = "TRUE" then some true
  else if s = "false" || s = "False" || s = "FALSE" then some false
  else none

/-- A truth value. -/
def truth : Decoder Bool := fun d t => do
  match (untexted? boolTag (← follow d t)).bind truth? with
  | some b => pure b
  | none => failure

/-- The value of a digit in some base. -/
def digit? (base : Nat) (c : Char) : Option Nat :=
  let v :=
    if '0' ≤ c && c ≤ '9' then c.toNat - 0x30
    else if 'a' ≤ c && c ≤ 'z' then c.toNat - 0x57
    else if 'A' ≤ c && c ≤ 'Z' then c.toNat - 0x37
    else base
  if v < base then some v else none

/-- The value of at least one digit. -/
def digits? (base : Nat) (cs : List Char) : Option Nat :=
  if cs.isEmpty then none
  else cs.foldl (fun n c => n.bind fun n => (digit? base c).map fun v => n * base + v) (some 0)

/-- A natural number: an optional plus sign, then digits of base ten without a
leading zero, or of another base behind its mark. -/
def natural? (cs : List Char) : Option Nat :=
  let cs := if cs.head? = some '+' then cs.drop 1 else cs
  let marked :=
    match cs with
    | '0' :: 'x' :: rest => digits? 16 rest
    | '0' :: 'o' :: rest => digits? 8 rest
    | '0' :: 'b' :: rest => digits? 2 rest
    | _ => none
  match marked with
  | some n => some n
  | none => if cs.length > 1 && cs.head? = some '0' then none else digits? 10 cs

/-- A natural number below a bound. -/
def unsigned (bound : Nat) : Decoder Nat := fun d t => do
  match (untexted? intTag (← follow d t)).bind fun s => natural? s.toList with
  | some n => if n < bound then pure n else failure
  | none => failure

/-- A value that may be left out: nothing and null are no value.  Quotes and
tags make a text of what looks like null, but for the tag of null itself. -/
def optional (decoder : Decoder α) : Decoder (Option α) := fun d t => do
  let t ← follow d t
  match t with
  | .scalar none .plain s =>
      if s.isEmpty || isNull s then pure none else some <$> decoder d t
  | .scalar (some tag) .plain s =>
      if tag = nullTag then if isNull s then pure none else failure
      else some <$> decoder d t
  | t => some <$> decoder d t

/-- Whether a tree is the empty plain scalar that stands for an empty collection. -/
def isNothing : Tree → Bool
  | .scalar _ .plain s => s.isEmpty
  | _ => false

/-- A list of values. -/
def list (decoder : Decoder α) : Decoder (List α) := fun d t => do
  match ← follow d t with
  | .sequence items => items.mapM (decoder d)
  | t => if isNothing t then pure [] else failure

/-- The entries of a mapping with texts for keys. -/
def entries : Decoder (List (Tree × Tree)) := fun d t => do
  match ← follow d t with
  | .mapping entries => pure entries
  | t => if isNothing t then pure [] else failure

/-- A mapping of texts to values, entry by entry. -/
def table (decoder : Decoder α) : Decoder (List (String × α)) := fun d t => do
  (← entries d t).mapM fun e => do
    let key ← text d e.1
    let value ← decoder d e.2
    pure (key, value)

/-- How the value of a field is read into a record. -/
abbrev FieldReader (α : Type) := α → Document → Tree → Decoding α

/-- A mapping whose keys name fields.  A field may not be given twice; a key that
names no field is passed over with its value. -/
def record (start : α) (field? : String → Option (FieldReader α)) : Decoder α := fun d t => do
  let (_, a) ← (← entries d t).foldlM (fun (seen, a) e => do
    let key ← text d e.1
    match field? key with
    | none => pure (seen, a)
    | some read =>
        if seen.contains key then failure
        let a ← read a d e.2
        pure (key :: seen, a)) (([] : List String), start)
  pure a

/-- Read the value of a field and store it. -/
def into {β : Type} (decoder : Decoder β) (store : α → β → α) : FieldReader α := fun a d t =>
  store a <$> decoder d t

/-- Read a whole document.  The empty stream is read as an empty collection. -/
def run (decoder : Decoder α) (d : Document) : Option α :=
  (decoder d (d.root.getD (.scalar none .plain ""))).run' d.jumps

/-- Read a stream of one document. -/
def ofText? (decoder : Decoder α) (s : String) : Option α :=
  (Document.ofText? s).bind decoder.run

end Decoder

end VcenterAccess.Yaml
