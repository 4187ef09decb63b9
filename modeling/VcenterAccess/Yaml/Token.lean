/-!
# The tokens of a YAML stream

Indentation is spelled out in tokens: a block collection opens and closes like a
flow collection does, and every key is announced before it starts.
-/

namespace VcenterAccess.Yaml

/-- How a scalar is written. -/
inductive ScalarStyle where
  /-- Without quotes. -/
  | plain
  /-- Between single or double quotes. -/
  | quoted
  /-- As a block that keeps its line breaks. -/
  | literal
  /-- As a block whose lines are joined. -/
  | folded
deriving DecidableEq, Repr

/-- A token of a YAML stream. -/
inductive Token where
  /-- A `%YAML` directive. -/
  | version (major minor : Nat)
  | tagDirective (handle start : String)
  /-- The marker `---`. -/
  | documentStart
  /-- The marker `...`. -/
  | documentEnd
  | blockSequenceStart
  | blockMappingStart
  /-- A block collection ends. -/
  | blockEnd
  /-- An opening square bracket. -/
  | flowSequenceStart
  /-- A closing square bracket. -/
  | flowSequenceEnd
  /-- An opening brace. -/
  | flowMappingStart
  /-- A closing brace. -/
  | flowMappingEnd
  /-- The dash in front of an item. -/
  | blockEntry
  /-- The comma between items. -/
  | flowEntry
  /-- A key follows. -/
  | key
  /-- A value follows. -/
  | value
  /-- A reference to an anchored node. -/
  | alias (name : String)
  /-- A name for the node that follows. -/
  | anchor (name : String)
  /-- A tag for the node that follows, in two parts. -/
  | tag (handle suffix : String)
  | scalar (style : ScalarStyle) (text : String)
deriving DecidableEq, Repr

end VcenterAccess.Yaml
