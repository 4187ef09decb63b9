import VcenterAccess.Yaml.Lexer
import VcenterAccess.Yaml.Node

/-!
# Documents

A document is a tree of nodes in which every alias is resolved to a place.  An
alias means the last node in front of it with its name, and a name that no node
carries is an error.

Places are numbers: an anchored node gets as its place the number of different
names given before it.  A name given a second time takes the next free number
without using it up, so the node of the next new name then has the same place.
Of several nodes at one place the last one counts, for every alias to it.
-/

namespace VcenterAccess.Yaml

/-- A node whose aliases are resolved. -/
inductive Tree where
  | scalar (tag : Option String) (style : ScalarStyle) (text : String)
  /-- Trees in a row. -/
  | sequence (items : List Tree)
  /-- Pairs of trees in a row. -/
  | mapping (entries : List (Tree × Tree))
  /-- The tree at a place. -/
  | reference (place : Nat)
deriving Inhabited

/-- The place of each name given so far, no name twice. -/
abbrev Names := List (String × Nat)

/-- The trees at places, in the order in which they start. -/
abbrev Places := List (Nat × Tree)

/-- Give a name the next place. -/
def Names.give (names : Names) (name : String) : Names :=
  (name, names.length) :: names.filter fun n => n.1 ≠ name

/-- The place of a name. -/
def Names.place? (names : Names) (name : String) : Option Nat :=
  (names.find? fun n => n.1 = name).map Prod.snd

/-- Give the name of a node, if it has one. -/
def Names.giveTo (names : Names) (p : Properties) : Names :=
  match p.anchor with
  | none => names
  | some name => names.give name

/-- The entry of a node among the places, if it has a name; `names` are those in
front of it. -/
def placed (names : Names) (p : Properties) (t : Tree) : Places :=
  match p.anchor with
  | none => []
  | some _ => [(names.length, t)]

mutual

/-- Resolve the aliases of a node.  The answer holds the tree, the names given
up to its end and the places in it. -/
def resolve? (names : Names) : Node → Option (Tree × Names × Places)
  | .scalar p style text =>
      let t := Tree.scalar p.tag style text
      some (t, names.giveTo p, placed names p t)
  | .sequence p items =>
      (resolveItems? (names.giveTo p) items).map fun (trees, names', places) =>
        (.sequence trees, names', placed names p (.sequence trees) ++ places)
  | .mapping p entries =>
      (resolveEntries? (names.giveTo p) entries).map fun (trees, names', places) =>
        (.mapping trees, names', placed names p (.mapping trees) ++ places)
  | .alias name => (names.place? name).map fun place => (.reference place, names, [])

/-- Resolve the aliases of nodes in a row. -/
def resolveItems? (names : Names) : List Node → Option (List Tree × Names × Places)
  | [] => some ([], names, [])
  | node :: rest =>
      (resolve? names node).bind fun (t, names', places) =>
        (resolveItems? names' rest).map fun (trees, names'', places') =>
          (t :: trees, names'', places ++ places')

/-- Resolve the aliases of pairs of nodes in a row. -/
def resolveEntries? (names : Names) :
    List (Node × Node) → Option (List (Tree × Tree) × Names × Places)
  | [] => some ([], names, [])
  | (key, value) :: rest =>
      (resolve? names key).bind fun (k, names', places) =>
        (resolve? names' value).bind fun (v, names'', places') =>
          (resolveEntries? names'' rest).map fun (trees, names''', places'') =>
            ((k, v) :: trees, names''', places ++ places' ++ places'')

end

mutual

/-- The number of steps in which a tree is read: one for a scalar and an alias,
one for either end of a collection. -/
def Tree.steps : Tree → Nat
  | .scalar _ _ _ => 1
  | .sequence items => stepsOfItems items + 2
  | .mapping entries => stepsOfEntries entries + 2
  | .reference _ => 1

/-- The number of steps for trees in a row. -/
def stepsOfItems : List Tree → Nat
  | [] => 0
  | t :: rest => t.steps + stepsOfItems rest

/-- The number of steps for pairs of trees in a row. -/
def stepsOfEntries : List (Tree × Tree) → Nat
  | [] => 0
  | (k, v) :: rest => k.steps + v.steps + stepsOfEntries rest

end

/-- The one document of a stream. -/
structure Document where
  /-- Its tree.  An empty stream has none. -/
  root : Option Tree
  /-- The trees aliases can stand for. -/
  places : Places
  /-- How often aliases may be followed while the document is read. -/
  jumps : Nat

namespace Document

/-- The tree at a place. -/
def at? (d : Document) (place : Nat) : Option Tree :=
  (d.places.reverse.find? fun p => p.1 = place).map Prod.snd

/-- Read a stream of one document. -/
def ofText? (s : String) : Option Document :=
  (Token.ofText? s).bind fun tokens =>
    (Node.ofTokens? tokens).bind fun
      | none => some ⟨none, [], 100⟩
      | some node =>
          (resolve? [] node).map fun (t, _, places) => ⟨some t, places, 100 * t.steps⟩

end Document

end VcenterAccess.Yaml
