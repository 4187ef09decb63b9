import VcenterAccess.Text.Quoted

/-!
# Inspection texts

How a value is shown to a person who debugs: records with their field names,
texts between quotes, absent values as `None`.  A type whose values carry
secrets has an `inspect` that passes over the secret fields, so what is never
handed to this module is never shown.
-/

namespace VcenterAccess.Text

/-- A text of parts with a separator between them. -/
def joinWith (separator : String) : List String → String
  | [] => ""
  | [s] => s
  | s :: rest => s ++ separator ++ joinWith separator rest

/-- The fields of a record, each with its name. -/
def inspectFields (fields : List (String × String)) : String :=
  joinWith ", " (fields.map fun f => f.1 ++ ": " ++ f.2)

/-- A record.  Without fields it is its name alone. -/
def inspectRecord (name : String) : List (String × String) → String
  | [] => name
  | fields => name ++ " \x7b " ++ inspectFields fields ++ " \x7d"

/-- A record that shows only some of its fields. -/
def inspectOpenRecord (name : String) (fields : List (String × String)) : String :=
  name ++ " \x7b " ++ inspectFields fields ++ ", .. \x7d"

/-- A constructor with its arguments. -/
def inspectCall (name : String) (arguments : List String) : String :=
  name ++ "(" ++ joinWith ", " arguments ++ ")"

/-- A value that may be absent. -/
def inspectOption {α : Type} (inspect : α → String) : Option α → String
  | none => "None"
  | some a => inspectCall "Some" [inspect a]

/-- A list of values. -/
def inspectList {α : Type} (inspect : α → String) (l : List α) : String :=
  "[" ++ joinWith ", " (l.map inspect) ++ "]"

/-- A map from texts, by key. -/
def inspectMap {α : Type} (inspect : α → String) (entries : List (String × α)) : String :=
  "\x7b" ++ joinWith ", " (entries.map fun e => quote e.1 ++ ": " ++ inspect e.2) ++ "\x7d"

/-- A truth value. -/
def inspectBool (b : Bool) : String := if b then "true" else "false"

example : inspectRecord "Point" [("x", "1"), ("y", inspectOption quote (some "a"))]
    = "Point \x7b x: 1, y: Some(\"a\") \x7d" := by decide

end VcenterAccess.Text
