import VcenterAccess.Text.Hex
import VcenterAccess.Text.Utf8

/-!
# Percent-encoding

In each part of a URL some characters are written as their bytes in UTF-8, each
with a percent sign and two digits.  Which ones they are depends on the part; no
part keeps controls or characters outside ASCII.  A percent sign that is there
already stays.
-/

namespace VcenterAccess.Url

open Text

/-- Whether a character is a control or none of ASCII. -/
def escapesAlways (c : Char) : Bool := c.toNat < 0x20 || 0x7F ≤ c.toNat

/-- The characters that a fragment does not keep. -/
def escapesInFragment (c : Char) : Bool := escapesAlways c || " \"<>\x60".toList.contains c

/-- The characters that a query does not keep. -/
def escapesInQuery (c : Char) : Bool := escapesAlways c || " \"#<>'".toList.contains c

/-- The characters that a path does not keep. -/
def escapesInPath (c : Char) : Bool := escapesInFragment c || "#?^\x7b\x7d".toList.contains c

/-- The characters that the user information does not keep. -/
def escapesInUserInfo (c : Char) : Bool := escapesInPath c || "/:;=@[\\]|".toList.contains c

/-- A byte with a percent sign and capital digits. -/
def percentByte (b : UInt8) : List Char := '%' :: (Hex.ofByte b).map Char.toUpper

/-- Encode the characters that a part of a URL does not keep. -/
def percentEncode (escapes : Char → Bool) (cs : List Char) : List Char :=
  cs.flatMap fun c => if escapes c then (String.utf8EncodeChar c).flatMap percentByte else [c]

/-- The value of a byte that is a digit. -/
def hexValue? (b : UInt8) : Option Nat := Hex.value? (Char.ofNat b.toNat)

/-- The bytes with every percent sign and its two digits read as one. -/
def percentDecode : List UInt8 → List UInt8
  | a :: b :: c :: rest =>
      match if a = 0x25 then (hexValue? b, hexValue? c) else (none, none) with
      | (some hi, some lo) => UInt8.ofNat (hi * 16 + lo) :: percentDecode rest
      | _ => a :: percentDecode (b :: c :: rest)
  | bs => bs
termination_by bs => bs.length

example : percentEncode escapesInPath "a b%".toList = "a%20b%".toList := by decide

end VcenterAccess.Url
