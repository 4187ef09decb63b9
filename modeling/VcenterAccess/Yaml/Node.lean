import VcenterAccess.Yaml.Token

/-!
# From tokens to nodes

A YAML document is a tree of scalars, sequences and mappings.  A node may carry
a name, its anchor, and an alias stands for the node with its name.

`Node.ofTokens?` reads the one document of a stream.  It fails if the tokens are
no document or if there is a second one; an empty stream has no node.  Each
reader takes the tokens in front of it and gives back the rest, and every second
call takes a token, so the number of tokens bounds the depth of the calls.
-/

namespace VcenterAccess.Yaml

/-- What a node may carry. -/
structure Properties where
  /-- Its name. -/
  anchor : Option String := none
  tag : Option String := none
deriving DecidableEq, Repr, Inhabited

/-- A node of a document. -/
inductive Node where
  | scalar (properties : Properties) (style : ScalarStyle) (text : String)
  /-- Nodes in a row. -/
  | sequence (properties : Properties) (items : List Node)
  /-- Pairs of nodes in a row. -/
  | mapping (properties : Properties) (entries : List (Node × Node))
  /-- The node of a name. -/
  | alias (name : String)
deriving Inhabited

namespace Node

/-- The node where nothing is written. -/
def nothing : Node := .scalar {} .plain ""

/-- What the tag handles of a document stand for. -/
abbrev Handles := List (String × String)

/-- The tag of a handle and a suffix, if the handle is known. -/
def resolveTag? (handles : Handles) (handle suffix : String) : Option String :=
  if handle.isEmpty then some suffix
  else (handles.find? fun h => h.1 = handle).map fun h => h.2 ++ suffix

/-- Read the properties of a node: an anchor and a tag in either order. -/
def readProperties? (handles : Handles) : List Token → Option (Properties × List Token)
  | .anchor name :: .tag handle suffix :: rest
  | .tag handle suffix :: .anchor name :: rest =>
      (resolveTag? handles handle suffix).map fun tag =>
        ({ anchor := some name, tag := some tag }, rest)
  | .anchor name :: rest => some ({ anchor := some name }, rest)
  | .tag handle suffix :: rest =>
      (resolveTag? handles handle suffix).map fun tag => ({ tag := some tag }, rest)
  | rest => some ({}, rest)

/-- Whether no item follows the dash of a block sequence. -/
def isAbsentItem : List Token → Bool
  | .blockEntry :: _ | .blockEnd :: _ => true
  | _ => false

/-- Whether nothing follows the indicator of a key or a value in a block mapping. -/
def isAbsentInMapping : List Token → Bool
  | .key :: _ | .value :: _ | .blockEnd :: _ => true
  | _ => false

/-- Whether no item follows the dash of a sequence without its own indentation. -/
def isAbsentIndentless : List Token → Bool
  | .blockEntry :: _ | .key :: _ | .value :: _ | .blockEnd :: _ => true
  | _ => false

mutual

/-- Read a node.  In `block` it may be a block collection, and if `indentless` a
sequence may start without its own indentation. -/
def read? (handles : Handles) (block indentless : Bool) :
    Nat → List Token → Option (Node × List Token)
  | 0, _ => none
  | _ + 1, .alias name :: rest => some (.alias name, rest)
  | n + 1, tokens =>
      match readProperties? handles tokens with
      | none => none
      | some (p, rest) =>
          match rest with
          | .scalar style text :: rest' => some (.scalar p style text, rest')
          | .flowSequenceStart :: rest' =>
              (readFlowSequence? handles true n rest').map fun (items, r) => (.sequence p items, r)
          | .flowMappingStart :: rest' =>
              (readFlowMapping? handles true n rest').map fun (entries, r) => (.mapping p entries, r)
          | .blockEntry :: _ =>
              if indentless then
                (readIndentless? handles n rest).map fun (items, r) => (.sequence p items, r)
              else if p = {} then none
              else some (.scalar p .plain "", rest)
          | .blockSequenceStart :: rest' =>
              if block then
                (readBlockSequence? handles n rest').map fun (items, r) => (.sequence p items, r)
              else if p = {} then none
              else some (.scalar p .plain "", rest)
          | .blockMappingStart :: rest' =>
              if block then
                (readBlockMapping? handles n rest').map fun (entries, r) => (.mapping p entries, r)
              else if p = {} then none
              else some (.scalar p .plain "", rest)
          | _ => if p = {} then none else some (.scalar p .plain "", rest)

/-- Read the items of a block sequence. -/
def readBlockSequence? (handles : Handles) : Nat → List Token → Option (List Node × List Token)
  | 0, _ => none
  | n + 1, .blockEntry :: rest =>
      if isAbsentItem rest then
        (readBlockSequence? handles n rest).map fun (items, r) => (nothing :: items, r)
      else
        match read? handles true false n rest with
        | none => none
        | some (item, rest') =>
            (readBlockSequence? handles n rest').map fun (items, r) => (item :: items, r)
  | _ + 1, .blockEnd :: rest => some ([], rest)
  | _ + 1, _ => none

/-- Read the items of a block sequence at the indentation of the mapping it is in. -/
def readIndentless? (handles : Handles) : Nat → List Token → Option (List Node × List Token)
  | 0, _ => none
  | n + 1, .blockEntry :: rest =>
      if isAbsentIndentless rest then
        (readIndentless? handles n rest).map fun (items, r) => (nothing :: items, r)
      else
        match read? handles true false n rest with
        | none => none
        | some (item, rest') =>
            (readIndentless? handles n rest').map fun (items, r) => (item :: items, r)
  | _ + 1, rest => some ([], rest)

/-- Read the entries of a block mapping. -/
def readBlockMapping? (handles : Handles) :
    Nat → List Token → Option (List (Node × Node) × List Token)
  | 0, _ => none
  | n + 1, .key :: rest =>
      match readInMapping? handles n rest with
      | none => none
      | some (key, rest') =>
          match readBlockValue? handles n rest' with
          | none => none
          | some (value, rest'') =>
              (readBlockMapping? handles n rest'').map fun (entries, r) => ((key, value) :: entries, r)
  | _ + 1, .blockEnd :: rest => some ([], rest)
  | _ + 1, _ => none

/-- Read the value of a key in a block mapping, if it has one. -/
def readBlockValue? (handles : Handles) : Nat → List Token → Option (Node × List Token)
  | 0, _ => none
  | n + 1, .value :: rest => readInMapping? handles n rest
  | _ + 1, rest => some (nothing, rest)

/-- Read what follows the indicator of a key or a value in a block mapping. -/
def readInMapping? (handles : Handles) : Nat → List Token → Option (Node × List Token)
  | 0, _ => none
  | n + 1, rest =>
      if isAbsentInMapping rest then some (nothing, rest) else read? handles true true n rest

/-- Read the items of a flow sequence. -/
def readFlowSequence? (handles : Handles) (first : Bool) :
    Nat → List Token → Option (List Node × List Token)
  | 0, _ => none
  | _ + 1, .flowSequenceEnd :: rest => some ([], rest)
  | n + 1, .flowEntry :: rest =>
      if first then none
      else
        match rest with
        | .flowSequenceEnd :: rest' => some ([], rest')
        | _ => readFlowItem? handles n rest
  | n + 1, rest => if first then readFlowItem? handles n rest else none

/-- Read an item of a flow sequence and those behind it.  An item may be a
mapping of one entry without braces. -/
def readFlowItem? (handles : Handles) : Nat → List Token → Option (List Node × List Token)
  | 0, _ => none
  | n + 1, .key :: rest =>
      match readPairKey? handles n rest with
      | none => none
      | some (key, rest') =>
          match readPairValue? handles n rest' with
          | none => none
          | some (value, rest'') =>
              (readFlowSequence? handles false n rest'').map fun (items, r) =>
                (.mapping {} [(key, value)] :: items, r)
  | n + 1, rest =>
      match read? handles false false n rest with
      | none => none
      | some (item, rest') =>
          (readFlowSequence? handles false n rest').map fun (items, r) => (item :: items, r)

/-- Read the key of an entry without braces.  Where no key stands, the token that
stands there is passed over. -/
def readPairKey? (handles : Handles) : Nat → List Token → Option (Node × List Token)
  | 0, _ => none
  | _ + 1, .value :: rest | _ + 1, .flowEntry :: rest | _ + 1, .flowSequenceEnd :: rest =>
      some (nothing, rest)
  | n + 1, rest => read? handles false false n rest

/-- Read the value of an entry without braces, if it has one. -/
def readPairValue? (handles : Handles) : Nat → List Token → Option (Node × List Token)
  | 0, _ => none
  | n + 1, .value :: rest =>
      match rest with
      | .flowEntry :: _ | .flowSequenceEnd :: _ => some (nothing, rest)
      | _ => read? handles false false n rest
  | _ + 1, rest => some (nothing, rest)

/-- Read the entries of a flow mapping. -/
def readFlowMapping? (handles : Handles) (first : Bool) :
    Nat → List Token → Option (List (Node × Node) × List Token)
  | 0, _ => none
  | _ + 1, .flowMappingEnd :: rest => some ([], rest)
  | n + 1, .flowEntry :: rest =>
      if first then none
      else
        match rest with
        | .flowMappingEnd :: rest' => some ([], rest')
        | _ => readFlowEntry? handles n rest
  | n + 1, rest => if first then readFlowEntry? handles n rest else none

/-- Read an entry of a flow mapping and those behind it.  A node without the
indicator of a key is a key without a value. -/
def readFlowEntry? (handles : Handles) :
    Nat → List Token → Option (List (Node × Node) × List Token)
  | 0, _ => none
  | n + 1, .key :: rest =>
      match readFlowKey? handles n rest with
      | none => none
      | some (key, rest') =>
          match readFlowValue? handles n rest' with
          | none => none
          | some (value, rest'') =>
              (readFlowMapping? handles false n rest'').map fun (entries, r) =>
                ((key, value) :: entries, r)
  | n + 1, rest =>
      match read? handles false false n rest with
      | none => none
      | some (key, rest') =>
          (readFlowMapping? handles false n rest').map fun (entries, r) =>
            ((key, nothing) :: entries, r)

/-- Read what follows the indicator of a key in a flow mapping. -/
def readFlowKey? (handles : Handles) : Nat → List Token → Option (Node × List Token)
  | 0, _ => none
  | n + 1, rest =>
      match rest with
      | .value :: _ | .flowEntry :: _ | .flowMappingEnd :: _ => some (nothing, rest)
      | _ => read? handles false false n rest

/-- Read the value of a key in a flow mapping, if it has one. -/
def readFlowValue? (handles : Handles) : Nat → List Token → Option (Node × List Token)
  | 0, _ => none
  | n + 1, .value :: rest =>
      match rest with
      | .flowEntry :: _ | .flowMappingEnd :: _ => some (nothing, rest)
      | _ => read? handles false false n rest
  | _ + 1, rest => some (nothing, rest)

end

/-- The depth of calls that suffices for some tokens. -/
def depthFor (tokens : List Token) : Nat := 4 * tokens.length + 8

/-! ## Documents -/

/-- The directives in front of a document. -/
structure Preamble where
  /-- Whether a version was given. -/
  versioned : Bool := false
  /-- The handles that were given a meaning. -/
  handles : Handles := []

/-- Read the directives in front of a document.  No version but 1.1 and 1.2 is
known, and neither it nor a handle may be given twice. -/
def readPreamble? (pre : Preamble) : List Token → Option (Preamble × List Token)
  | .version major minor :: rest =>
      if pre.versioned || major ≠ 1 || (minor ≠ 1 && minor ≠ 2) then none
      else readPreamble? { pre with versioned := true } rest
  | .tagDirective handle start :: rest =>
      if pre.handles.any fun h => h.1 = handle then none
      else readPreamble? { pre with handles := pre.handles ++ [(handle, start)] } rest
  | rest => some (pre, rest)

/-- The handles every document knows unless it gives them another meaning. -/
def commonHandles : Handles := [("!", "!"), ("!!", "tag:yaml.org,2002:")]

/-- Whether a marked document has no content. -/
def isAbsentContent : List Token → Bool
  | [] | .version _ _ :: _ | .tagDirective _ _ :: _ | .documentStart :: _ | .documentEnd :: _ => true
  | _ => false

/-- Whether the tokens behind a document are those of the end of the stream. -/
def isEndOfStream : List Token → Bool
  | [] => true
  | .documentEnd :: rest => isEndOfStream rest
  | _ => false

/-- Read the content of a document, behind which the stream has to end. -/
def readContent? (handles : Handles) (tokens : List Token) : Option Node :=
  (read? handles true false (depthFor tokens) tokens).bind fun (node, rest) =>
    if isEndOfStream rest then some node else none

/-- Whether the first document needs no marker in front. -/
def startsBare : List Token → Bool
  | .version _ _ :: _ | .tagDirective _ _ :: _ | .documentStart :: _ => false
  | _ => true

/-- Read the one document of a stream; an empty stream has none. -/
def ofTokens? (tokens : List Token) : Option (Option Node) :=
  if tokens = [] then some none
  else if startsBare tokens then (readContent? commonHandles tokens).map some
  else
    match readPreamble? {} tokens with
    | some (pre, .documentStart :: rest) =>
        if isAbsentContent rest then if isEndOfStream rest then some (some nothing) else none
        else (readContent? (pre.handles ++ commonHandles) rest).map some
    | _ => none

end Node

end VcenterAccess.Yaml
