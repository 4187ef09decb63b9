import VcenterAccess.Json.Text
import VcenterAccess.Text.Inspection

/-!
# References to Secrets

A Secret is found by its namespace and its name.  References are ordered by
namespace, then by name.
-/

namespace VcenterAccess

open Text

/-- Where a Secret is found. -/
structure SecretReference where
  /-- The namespace of the Secret. -/
  ns : String
  /-- The name of the Secret in its namespace. -/
  name : String
deriving DecidableEq, Inhabited, Repr

namespace SecretReference

/-- The reference as an object of the cluster: kind, version, name, namespace. -/
def display (r : SecretReference) : String := "Secret.v1./" ++ r.name ++ "." ++ r.ns

/-- The reference as compact JSON. -/
def json (r : SecretReference) : String :=
  Json.object [("namespace", Json.string r.ns), ("name", Json.string r.name)]

/-- The reference as it is shown to a person. -/
def inspect (r : SecretReference) : String :=
  inspectRecord "SecretReference" [("namespace", quote r.ns), ("name", quote r.name)]

/-- By namespace, then by name. -/
def before (a b : SecretReference) : Prop := a.ns < b.ns ∨ (a.ns = b.ns ∧ a.name < b.name)

instance (a b : SecretReference) : Decidable (before a b) :=
  inferInstanceAs (Decidable (_ ∨ _))

/-- Put a reference at its place, unless it is there already. -/
def insertSorted (r : SecretReference) : List SecretReference → List SecretReference
  | [] => [r]
  | r' :: rest =>
      if before r r' then r :: r' :: rest
      else if r = r' then r' :: rest
      else r' :: insertSorted r rest

/-- The references in order, each once. -/
def sort (rs : List SecretReference) : List SecretReference := rs.foldr insertSorted []

example : sort [⟨"b", "a"⟩, ⟨"a", "z"⟩, ⟨"b", "a"⟩, ⟨"", "z"⟩]
    = [⟨"", "z"⟩, ⟨"a", "z"⟩, ⟨"b", "a"⟩] := by decide

end SecretReference

end VcenterAccess
