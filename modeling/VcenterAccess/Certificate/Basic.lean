import VcenterAccess.Certificate.Name
import VcenterAccess.Certificate.Time
import VcenterAccess.Pem

/-!
# Certificates

An X.509 certificate is read as a whole and kept as it is encoded, together with
what a login needs of it: whose it is, its number and its public key.

`loadChain?` reads certificates in PEM form one after the other.
-/

namespace VcenterAccess

open Der

/-- What a certificate says. -/
structure Certificate.Body where
  /-- Whose it is. -/
  subject : Certificate.Name
  /-- Its number, as it is encoded. -/
  serial : List UInt8
  /-- The public key, as it is encoded. -/
  publicKeyInfo : List UInt8
deriving DecidableEq, Repr

/-- A certificate. -/
structure Certificate extends Certificate.Body where
  /-- The whole certificate, with its signature. -/
  encoded : List UInt8
deriving DecidableEq, Repr

namespace Certificate

/-- The most bytes of a serial number. -/
def maxSerialLength : Nat := 21

/-- A version: the first, the second or the third. -/
def version : Reader Unit := do
  if 2 < (← natural) then failure

/-- A serial number. -/
def serialNumber : Reader (List UInt8) := do
  let bytes ← integer
  if maxSerialLength < bytes.length then failure
  pure bytes

/-- A public key with its algorithm, as it is encoded. -/
def publicKey : Reader (List UInt8) := do
  let (_, encoded) ← encodedAs 0x30 do
    let _ ← algorithm
    let _ ← bitString
  return encoded

/-- An extension. -/
def extension : Reader Unit :=
  inSequence do
    let _ ← oid
    if (← peek) = some 0x01 then
      let _ ← boolean
    let _ ← octetString

/-- What is signed of a certificate. -/
def body : Reader Body :=
  inSequence do
    let _ ← optionalExplicit 0 version
    let serial ← serialNumber
    let _ ← algorithm
    let _ ← name
    inSequence do
      time
      time
    let subject ← name
    let publicKeyInfo ← publicKey
    let _ ← Der.optional 1 (bitStringAs (implicitTag 1))
    let _ ← Der.optional 2 (bitStringAs (implicitTag 2))
    let _ ← optionalExplicit 3 (many 0x30 extension)
    return ⟨subject, serial, publicKeyInfo⟩

/-- A certificate. -/
def reader : Reader Certificate := do
  let (b, encoded) ← encodedAs 0x30 do
    let b ← body
    let _ ← algorithm
    let _ ← bitString
    return b
  return ⟨b, encoded⟩

/-- The label of a certificate in PEM form. -/
def pemLabel : List UInt8 := Text.Utf8.ofText "CERTIFICATE"

/-- Where a certificate in PEM form ends. -/
def boundary : List UInt8 := Text.Utf8.ofText "-----END CERTIFICATE-----"

/-- Read a certificate in PEM form.  Bytes behind it in its body do not count. -/
def ofPem? (bytes : List UInt8) : Option Certificate :=
  (Pem.decode? pemLabel bytes).bind fun der => (reader der).map Prod.fst

/-- Cut a list behind the first occurrence of a boundary. -/
def splitAfter? (mark : List UInt8) : List UInt8 → Option (List UInt8 × List UInt8)
  | [] => none
  | b :: bs =>
      match Text.stripStart? mark (b :: bs) with
      | some rest => some (mark, rest)
      | none => (splitAfter? mark bs).map fun (front, rest) => (b :: front, rest)
termination_by structural bs => bs

/-- Read certificates until at most one byte is left. -/
def readChain? (bytes : List UInt8) : Option (List Certificate) :=
  if bytes.length ≤ 1 then some []
  else
    match splitAfter? boundary bytes with
    | none => none
    | some (front, rest) =>
        match ofPem? front with
        | none => none
        | some certificate =>
            if rest.length < bytes.length then (readChain? rest).map (certificate :: ·) else none
termination_by bytes.length

/-- Whether a byte is a carriage return or a line feed. -/
def isLineEnd (b : UInt8) : Bool := b = 0x0D || b = 0x0A

/-- Read a chain of certificates in PEM form.  Line ends behind the last one do
not count. -/
def loadChain? (bytes : List UInt8) : Option (List Certificate) :=
  readChain? (bytes.reverse.dropWhile isLineEnd).reverse

/-- A way to load a chain of certificates. -/
abbrev ChainLoader := List UInt8 → Option (List Certificate)

end Certificate

end VcenterAccess
