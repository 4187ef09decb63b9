import VcenterAccess.Der.Oid

/-!
# RSA keys

A private RSA key of two primes in the form of PKCS#1.  A key is accepted if its
numbers fit together; the primes are not tested for being prime, and the values
that only speed computations up are not looked at.
-/

namespace VcenterAccess

open Der

/-- A private RSA key. -/
structure RsaKey where
  modulus : Nat
  /-- The public exponent. -/
  exponent : Nat
  privateExponent : Nat
  /-- The first prime. -/
  prime₁ : Nat
  /-- The second prime. -/
  prime₂ : Nat
deriving DecidableEq, Repr

namespace RsaKey

/-- The most bits of a modulus. -/
def maxBits : Nat := 4096

/-- The public half fits: the modulus is odd, the exponent is odd, at least three,
below the modulus and of at most 33 bits. -/
def publicFits (k : RsaKey) : Bool :=
  k.modulus.log2 < maxBits && k.exponent < k.modulus && k.modulus % 2 = 1 && k.exponent % 2 = 1
    && 3 ≤ k.exponent && k.exponent < 0x200000000

/-- The private exponent undoes the public one modulo a prime. -/
def inverts (k : RsaKey) (prime : Nat) : Bool :=
  1 < prime && k.privateExponent * k.exponent % (prime - 1) = 1

/-- All numbers fit together. -/
def fits (k : RsaKey) : Bool :=
  k.publicFits && k.prime₁ * k.prime₂ = k.modulus && k.inverts k.prime₁ && k.inverts k.prime₂

/-- A key in the form of PKCS#1. -/
def reader : Reader RsaKey := do
  let k ← inSequence do
    if (← natural) ≠ 0 then failure
    let modulus ← natural
    let exponent ← natural
    let privateExponent ← natural
    let prime₁ ← natural
    let prime₂ ← natural
    let _ ← natural
    let _ ← natural
    let _ ← natural
    return (⟨modulus, exponent, privateExponent, prime₁, prime₂⟩ : RsaKey)
  if k.fits then pure k else failure

/-- The encoding of a natural number. -/
def encodeNatural (n : Nat) : List UInt8 :=
  let bytes := if n = 0 then [0] else Der.ofNat n
  Der.encode 0x02 (if bytes.head?.any (0x80 ≤ ·) then 0 :: bytes else bytes)

/-- The public half as it stands in a certificate. -/
def publicKeyInfo (k : RsaKey) : List UInt8 :=
  encodePublicKey rsaOid Der.null
    (Der.encode 0x30 (encodeNatural k.modulus ++ encodeNatural k.exponent))

example : fits ⟨15, 3, 3, 3, 5⟩ := by decide +kernel
example : ¬ fits ⟨15, 3, 4, 3, 5⟩ := by decide +kernel

end RsaKey

end VcenterAccess
