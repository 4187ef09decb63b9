/-!
# Hexadecimal

Bytes and numbers in lower case hexadecimal digits.
-/

namespace VcenterAccess.Text.Hex

/-- The digit of a number below 16. -/
def digit (n : Nat) : Char :=
  if n < 10 then Char.ofNat (0x30 + n) else Char.ofNat (0x57 + n)

/-- The value of a digit, in either case. -/
def value? (c : Char) : Option Nat :=
  if '0' ≤ c ∧ c ≤ '9' then some (c.toNat - 0x30)
  else if 'a' ≤ c ∧ c ≤ 'f' then some (c.toNat - 0x57)
  else if 'A' ≤ c ∧ c ≤ 'F' then some (c.toNat - 0x37)
  else none

/-- The two digits of a byte. -/
def ofByte (b : UInt8) : List Char := [digit (b.toNat / 16), digit (b.toNat % 16)]

/-- Two digits for each byte. -/
def encode (bs : List UInt8) : List Char := bs.flatMap ofByte

/-- Read two digits for each byte. -/
def decode? : List Char → Option (List UInt8)
  | [] => some []
  | [_] => none
  | h :: l :: rest => do
      let hi ← value? h
      let lo ← value? l
      let bs ← decode? rest
      return UInt8.ofNat (hi * 16 + lo) :: bs

/-- The digits of a number, without leading zeros. -/
def ofNat (n : Nat) : List Char := Nat.toDigits 16 n

example : encode [0x00, 0xff, 0x1a] = "00ff1a".toList := by decide
example : decode? "00fF".toList = some [0x00, 0xff] := by decide

end VcenterAccess.Text.Hex
