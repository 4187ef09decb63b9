import VcenterAccess.Der.Reader

/-!
# Object identifiers

An object identifier is a path of numbers, its arcs.  The first two share a
byte; each of the others is written in base 128.  Arcs have 32 bits.
-/

namespace VcenterAccess.Der

/-- An object identifier, by its arcs. -/
abbrev Oid := List Nat

namespace Oid

/-- Read the arcs behind the first two.  `value` is what was read of an arc and
`count` the number of its bytes; of a fifth or later byte only the low half may
be used. -/
def readArcs? (value count : Nat) : List UInt8 → Option Oid
  | [] => if count = 0 then some [] else none
  | b :: bs =>
      if 4 ≤ count && 0x10 ≤ b then none
      else
        let value := (value * 128 + b.toNat % 128) % UInt32.size
        if b < 0x80 then (readArcs? 0 0 bs).map (value :: ·) else readArcs? value (count + 1) bs
termination_by structural bs => bs

/-- The object identifier of a content of three to 39 bytes. -/
def ofContent? (bs : List UInt8) : Option Oid :=
  if bs.length < 3 || 39 < bs.length then none
  else
    match bs with
    | [] => none
    | first :: rest =>
        if 120 ≤ first then none
        else (readArcs? 0 0 rest).map fun arcs => first.toNat / 40 :: first.toNat % 40 :: arcs

/-- The arcs with dots between them. -/
def dotted (oid : Oid) : String := String.intercalate "." (oid.map toString)

/-- The bytes of an arc in base 128, behind which `tail` follows. -/
def encodeArc (n : Nat) (last : Bool) : List UInt8 :=
  let low := UInt8.ofNat (n % 128)
  let byte := if last then low else low + 0x80
  if n < 128 then [byte] else encodeArc (n / 128) false ++ [byte]
termination_by n
decreasing_by omega

/-- The content of an object identifier. -/
def toContent : Oid → List UInt8
  | a :: b :: rest => UInt8.ofNat (a * 40 + b) :: rest.flatMap (encodeArc · true)
  | _ => []

/-- The encoding of an object identifier. -/
def encode (oid : Oid) : List UInt8 := Der.encode 0x06 oid.toContent

end Oid

/-- An object identifier. -/
def oid : Reader Oid := do
  match Oid.ofContent? (← content 0x06) with
  | some o => pure o
  | none => failure

/-- What an algorithm is and its parameters, if there are any. -/
structure Algorithm where
  /-- The algorithm. -/
  oid : Oid
  /-- The parameters, as they are encoded. -/
  parameters : Option (List UInt8)
deriving DecidableEq, Repr

/-- An algorithm with its parameters. -/
def algorithm : Reader Algorithm :=
  inSequence do
    let o ← oid
    match ← peek with
    | none => return ⟨o, none⟩
    | some _ => return ⟨o, some (← element).encoded⟩

/-- A public key with its algorithm, as it stands in a certificate. -/
def encodePublicKey (algorithm : Oid) (parameters key : List UInt8) : List UInt8 :=
  encode 0x30 (encode 0x30 (algorithm.encode ++ parameters) ++ encode 0x03 (0 :: key))

/-- The encoding of null. -/
def null : List UInt8 := [0x05, 0x00]

/-- RSA keys. -/
def rsaOid : Oid := [1, 2, 840, 113549, 1, 1, 1]

/-- Keys on elliptic curves. -/
def ellipticOid : Oid := [1, 2, 840, 10045, 2, 1]

/-- The curve P-256. -/
def p256Oid : Oid := [1, 2, 840, 10045, 3, 1, 7]

example : Oid.encode p256Oid = [0x06, 0x08, 0x2A, 0x86, 0x48, 0xCE, 0x3D, 0x03, 0x01, 0x07] := by
  decide +kernel
example : Oid.ofContent? [0x2A, 0x86, 0x48, 0xCE, 0x3D, 0x03, 0x01, 0x07] = some p256Oid := by
  decide

end VcenterAccess.Der
