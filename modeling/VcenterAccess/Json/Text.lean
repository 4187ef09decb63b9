import VcenterAccess.Text.Hex

/-!
# Compact JSON

Texts and objects as JSON without blanks.  Controls are escaped, everything else
but quote and backslash stands for itself.
-/

namespace VcenterAccess.Json

open Text

/-- How one character is written in a JSON string. -/
def escapeChar (c : Char) : List Char :=
  if c = '"' then ['\\', '"']
  else if c = '\\' then ['\\', '\\']
  else if c = '\n' then ['\\', 'n']
  else if c = '\r' then ['\\', 'r']
  else if c = '\t' then ['\\', 't']
  else if c = '\x08' then ['\\', 'b']
  else if c = '\x0c' then ['\\', 'f']
  else if c.toNat < 0x20 then ['\\', 'u', '0', '0'] ++ Hex.ofByte (UInt8.ofNat c.toNat)
  else [c]

/-- A text as a JSON string. -/
def string (s : String) : String :=
  String.ofList ('"' :: (s.toList.flatMap escapeChar ++ ['"']))

/-- The members of an object, separated by commas. -/
def members : List (String × String) → String
  | [] => ""
  | [(k, v)] => string k ++ ":" ++ v
  | (k, v) :: rest => string k ++ ":" ++ v ++ "," ++ members rest

/-- An object of members that are JSON texts themselves. -/
def object (fields : List (String × String)) : String := "\x7b" ++ members fields ++ "\x7d"

example : object [("a", string "x\ty")] = "\x7b\"a\":\"x\\ty\"\x7d" := by decide

end VcenterAccess.Json
