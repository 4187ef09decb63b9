import VcenterAccess.Text.Combining
import VcenterAccess.Text.Hex
import VcenterAccess.Text.Unprintable

/-!
# Quoted texts

Texts in messages and inspections stand between double quotes.  Quote,
backslash, the usual controls and NUL are written with a backslash, and every
character that has no glyph or extends its predecessor by its code point.
-/

namespace VcenterAccess.Text

/-- The code point form of a character. -/
def escapeCodePoint (c : Char) : List Char :=
  '\\' :: 'u' :: '\x7b' :: (Hex.ofNat c.toNat ++ ['\x7d'])

/-- How one character is written between quotes. -/
def escapeChar (c : Char) : List Char :=
  if c = '"' then ['\\', '"']
  else if c = '\\' then ['\\', '\\']
  else if c = '\n' then ['\\', 'n']
  else if c = '\r' then ['\\', 'r']
  else if c = '\t' then ['\\', 't']
  else if c = '\x00' then ['\\', '0']
  else if isCombining c || isUnprintable c then escapeCodePoint c
  else [c]

/-- The characters of a quoted text. -/
def quoteChars (cs : List Char) : List Char := '"' :: (cs.flatMap escapeChar ++ ['"'])

/-- A text between quotes. -/
def quote (s : String) : String := String.ofList (quoteChars s.toList)

example : quote "a\"b\\c\n" = "\"a\\\"b\\\\c\\n\"" := by decide
example : quote "it's" = "\"it's\"" := by decide

end VcenterAccess.Text
