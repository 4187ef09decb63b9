import VcenterAccess.Der.Oid

/-!
# Keys on the curve P-256

The curve is y² = x³ - 3x + b over the field with `fieldPrime` elements.  Its
points form a group of prime order, generated by `generator`.  A private key is
a number below that order, its public half the corresponding multiple of the
generator.
-/

namespace VcenterAccess.P256

open Der

/-! ## The field -/

/-- The number of elements of the field. -/
def fieldPrime : Nat := 0xFFFFFFFF00000001000000000000000000000000FFFFFFFFFFFFFFFFFFFFFFFF

/-- The number of points of the curve. -/
def order : Nat := 0xFFFFFFFF00000000FFFFFFFFFFFFFFFFBCE6FAADA7179E84F3B9CAC2FC632551

/-- A power modulo `m`. -/
def powMod (b e m : Nat) : Nat :=
  if e = 0 then 1 % m
  else
    let half := powMod (b * b % m) (e / 2) m
    if e % 2 = 1 then half * b % m else half
termination_by e

/-- The inverse of an element that is not zero: the power that multiplies it to one. -/
def invert (a : Nat) : Nat := powMod a (fieldPrime - 2) fieldPrime

/-- The difference of two elements. -/
def subtract (a b : Nat) : Nat := (a + (fieldPrime - b % fieldPrime)) % fieldPrime

/-! ## The curve -/

/-- A point of the curve. -/
inductive Point where
  /-- The neutral element. -/
  | infinity
  /-- A point with coordinates. -/
  | affine (x y : Nat)
deriving DecidableEq, Repr

/-- The point that generates the group. -/
def generator : Point :=
  .affine 0x6B17D1F2E12C4247F8BCE6E563A440F277037D812DEB33A0F4A13945D898C296
    0x4FE342E2FE1A7F9B8EE7EB4A7C0F9E162BCE33576B315ECECBB6406837BF51F5

/-- The third point on the line of slope `s` through the point with coordinates
`x₁` and `y₁` and a point with first coordinate `x₂`, with the opposite sign. -/
def chord (s x₁ y₁ x₂ : Nat) : Point :=
  let x := subtract (s * s % fieldPrime) (x₁ + x₂)
  .affine x (subtract (s * subtract x₁ x) y₁)

/-- Twice a point. -/
def double : Point → Point
  | .infinity => .infinity
  | .affine x y =>
      if y = 0 then .infinity
      else chord (subtract (3 * x * x) 3 * invert (2 * y) % fieldPrime) x y x

/-- The sum of two points. -/
def add : Point → Point → Point
  | .infinity, q => q
  | p, .infinity => p
  | .affine x₁ y₁, .affine x₂ y₂ =>
      if x₁ = x₂ then
        if y₁ = y₂ then double (.affine x₁ y₁) else .infinity
      else chord (subtract y₂ y₁ * invert (subtract x₂ x₁) % fieldPrime) x₁ y₁ x₂

/-- A multiple of a point. -/
def multiply (k : Nat) (p : Point) : Point :=
  if k = 0 then .infinity
  else
    let rest := multiply (k / 2) (double p)
    if k % 2 = 1 then add p rest else rest
termination_by k

/-! ## Keys -/

/-- A private key. -/
structure Key where
  /-- The secret number. -/
  secret : Nat
deriving DecidableEq, Repr

/-- A number as 32 bytes. -/
def toBytes (n : Nat) : List UInt8 :=
  let bytes := Der.ofNat n
  List.replicate (32 - bytes.length) 0 ++ bytes

/-- The encoding of a point with both coordinates. -/
def encodePoint : Point → List UInt8
  | .infinity => [0x00]
  | .affine x y => 0x04 :: (toBytes x ++ toBytes y)

/-- The encoding of a point with one coordinate and the sign of the other. -/
def compressPoint : Point → List UInt8
  | .infinity => [0x00]
  | .affine x y => (if y % 2 = 0 then 0x02 else 0x03) :: toBytes x

namespace Key

/-- The key of 24 to 32 bytes: a number between zero and the order, both
excluded. -/
def ofBytes? (bytes : List UInt8) : Option Key :=
  if bytes.length < 24 || 32 < bytes.length then none
  else
    let d := toNat bytes
    if 0 < d && d < order then some ⟨d⟩ else none

/-- The public half. -/
def publicPoint (k : Key) : Point := multiply k.secret generator

/-- Whether an encoding is that of the public half. -/
def matchesPoint (k : Key) (encoding : List UInt8) : Bool :=
  let p := k.publicPoint
  encoding = encodePoint p || encoding = compressPoint p

/-- A key in the form of SEC1.  A public half that comes with it has to be its
own.  A curve that comes with it has to be a named one and is not looked at,
since it is the container of the key that says which curve it is on. -/
def reader : Reader Key := do
  let (secret, point) ← inSequence do
    if (← integer) ≠ [1] then failure
    let secret ← octetString
    let _ ← optionalExplicit 0 oid
    let point ← optionalExplicit 1 (do wholeBytes (← bitString))
    return (secret, point)
  match ofBytes? secret with
  | none => failure
  | some k => if point.all k.matchesPoint then pure k else failure

/-- The public half as it stands in a certificate. -/
def publicKeyInfo (k : Key) : List UInt8 :=
  encodePublicKey ellipticOid p256Oid.encode (encodePoint k.publicPoint)

end Key

end VcenterAccess.P256
