/-!
# Base64

The standard alphabet with padding, read strictly: the length is a multiple of
four, only the last group is padded, and the bits that padding leaves over are
zero.
-/

namespace VcenterAccess.Base64

/-- The value of a character of the alphabet. -/
def value? (b : UInt8) : Option Nat :=
  let n := b.toNat
  if 0x41 ≤ n ∧ n ≤ 0x5A then some (n - 0x41)
  else if 0x61 ≤ n ∧ n ≤ 0x7A then some (n - 0x47)
  else if 0x30 ≤ n ∧ n ≤ 0x39 then some (n + 4)
  else if n = 0x2B then some 62
  else if n = 0x2F then some 63
  else none

/-- The padding character. -/
def padding : UInt8 := 0x3D

/-- The bytes of a group of four characters without padding. -/
def group? (a b c d : UInt8) : Option (List UInt8) := do
  let n := (((← value? a) * 64 + (← value? b)) * 64 + (← value? c)) * 64 + (← value? d)
  return [UInt8.ofNat (n / 0x10000), UInt8.ofNat (n / 0x100 % 0x100), UInt8.ofNat (n % 0x100)]

/-- The bytes of the last group, which may be padded. -/
def lastGroup? (a b c d : UInt8) : Option (List UInt8) :=
  if d ≠ padding then group? a b c d
  else if c ≠ padding then do
    let n := ((← value? a) * 64 + (← value? b)) * 64 + (← value? c)
    if n % 4 ≠ 0 then none
    return [UInt8.ofNat (n / 0x400), UInt8.ofNat (n / 4 % 0x100)]
  else do
    let n := (← value? a) * 64 + (← value? b)
    if n % 16 ≠ 0 then none
    return [UInt8.ofNat (n / 16)]

/-- Read a text of groups. -/
def decode? : List UInt8 → Option (List UInt8)
  | [] => some []
  | [a, b, c, d] => lastGroup? a b c d
  | a :: b :: c :: d :: rest => do
      let bytes ← group? a b c d
      return bytes ++ (← decode? rest)
  | _ => none
termination_by structural bs => bs

/-- `TWFuTQ==` stands for `ManM`; with a bit left over it stands for nothing. -/
example : decode? [0x54, 0x57, 0x46, 0x75, 0x54, 0x51, 0x3D, 0x3D]
    = some [0x4D, 0x61, 0x6E, 0x4D] := by decide
example : decode? [0x54, 0x57, 0x46, 0x75, 0x54, 0x52, 0x3D, 0x3D] = none := by decide
example : decode? [0x54, 0x51, 0x3D, 0x3D, 0x54, 0x57, 0x46, 0x75] = none := by decide

end VcenterAccess.Base64
