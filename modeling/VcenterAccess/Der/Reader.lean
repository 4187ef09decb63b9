/-!
# DER

The distinguished encoding of ASN.1: elements with a tag, a length and a
content, in exactly one form each.  Lengths are definite, in the fewest octets,
and at most four of them follow the first.

A `Reader` takes elements from the front of a list of bytes.  `inSequence` reads
the content of a sequence and accepts it only as a whole.
-/

namespace VcenterAccess.Der

/-- Takes a value from the front of a list of bytes. -/
abbrev Reader (α : Type) := StateT (List UInt8) Option α

/-- An element of an encoding. -/
structure Element where
  /-- What the content is. -/
  tag : UInt8
  content : List UInt8
  /-- The whole element, with tag and length. -/
  encoded : List UInt8
deriving DecidableEq, Repr

/-! ## Tags -/

/-- The tags of the universal types that may occur. -/
def universalTags : List UInt8 :=
  [0x01, 0x02, 0x03, 0x04, 0x05, 0x06, 0x09, 0x0A, 0x0C, 0x12, 0x13, 0x14, 0x15, 0x16, 0x17, 0x18,
    0x1A, 0x1B, 0x1E, 0x30, 0x31]

/-- Whether a byte is a tag.  Of the other classes all numbers below 31 may occur. -/
def isTag (b : UInt8) : Bool :=
  if b < 0x40 then universalTags.contains b else b &&& 0x1F != 0x1F

/-- Whether a tag is context specific. -/
def isContextTag (b : UInt8) : Bool := b &&& 0xC0 == 0x80

/-- Whether a tag is that of a constructed element. -/
def isConstructed (b : UInt8) : Bool := b &&& 0x20 != 0

/-- The number of a tag. -/
def tagNumber (b : UInt8) : Nat := (b &&& 0x1F).toNat

/-- The tag of a constructed context specific element. -/
def explicitTag (n : Nat) : UInt8 := 0xA0 + UInt8.ofNat n

/-- The tag of a primitive context specific element. -/
def implicitTag (n : Nat) : UInt8 := 0x80 + UInt8.ofNat n

/-! ## Lengths -/

/-- The number that bytes stand for, the most significant first. -/
def toNat (bs : List UInt8) : Nat := bs.foldl (fun n b => n * 256 + b.toNat) 0

/-- The bytes of a number, the most significant first, none for zero. -/
def ofNat (n : Nat) : List UInt8 :=
  if n = 0 then [] else ofNat (n / 256) ++ [UInt8.ofNat n]
termination_by n
decreasing_by omega

/-- The bytes of a length. -/
def encodeLength (n : Nat) : List UInt8 :=
  if n < 0x80 then [UInt8.ofNat n]
  else
    let bytes := ofNat n
    UInt8.ofNat (0x80 + bytes.length) :: bytes

/-- The greatest length. -/
def maxLength : Nat := 0xFFFFFFF

/-- Read a length. -/
def readLength? : List UInt8 → Option (Nat × List UInt8)
  | [] => none
  | b :: bs =>
      if b < 0x80 then some (b.toNat, bs)
      else
        let count := b.toNat - 0x80
        if count = 0 || 4 < count || bs.length < count then none
        else
          let n := toNat (bs.take count)
          if n ≤ maxLength && encodeLength n = b :: bs.take count then some (n, bs.drop count)
          else none

/-! ## Elements -/

/-- Read an element. -/
def readElement? (bs : List UInt8) : Option (Element × List UInt8) :=
  match bs with
  | [] => none
  | tag :: rest =>
      if !isTag tag then none
      else
        match readLength? rest with
        | none => none
        | some (n, rest) =>
            if rest.length < n then none
            else some (⟨tag, rest.take n, bs.take (bs.length - (rest.length - n))⟩, rest.drop n)

/-- The bytes of an element. -/
def encode (tag : UInt8) (content : List UInt8) : List UInt8 :=
  tag :: (encodeLength content.length ++ content)

/-! ## Readers -/

variable {α : Type}

/-- Any element. -/
def element : Reader Element := fun bs => readElement? bs

/-- The content of an element with a given tag. -/
def content (tag : UInt8) : Reader (List UInt8) := do
  let e ← element
  if e.tag = tag then pure e.content else failure

/-- The tag in front, if there is an element. -/
def peek : Reader (Option UInt8) := do return (← get).head?

/-- Read a list of bytes as a whole. -/
def whole? (reader : Reader α) (bs : List UInt8) : Option α :=
  match reader bs with
  | some (a, []) => some a
  | _ => none

/-- Read the content of an element with a given tag as a whole. -/
def nested (tag : UInt8) (reader : Reader α) : Reader α := do
  match whole? reader (← content tag) with
  | some a => pure a
  | none => failure

/-- Read the content of an element with a given tag as a whole, and keep the element
as it is encoded. -/
def encodedAs (tag : UInt8) (reader : Reader α) : Reader (α × List UInt8) := do
  let e ← element
  match if e.tag = tag then whole? reader e.content else none with
  | some a => pure (a, e.encoded)
  | none => failure

/-- A sequence. -/
def inSequence (reader : Reader α) : Reader α := nested 0x30 reader

/-- Read a list of bytes as values in a row.  A value takes at least one byte. -/
def all? (reader : Reader α) (bs : List UInt8) : Option (List α) :=
  if bs.isEmpty then some []
  else
    match reader bs with
    | none => none
    | some (a, rest) =>
        if rest.length < bs.length then (all? reader rest).map (a :: ·) else none
termination_by bs.length

/-- Values in a row, as the content of an element with a given tag. -/
def many (tag : UInt8) (reader : Reader α) : Reader (List α) := do
  match all? reader (← content tag) with
  | some as => pure as
  | none => failure

/-- Pass over context specific elements with numbers below `n`.  The answer says
whether one with that number follows. -/
def seek? (n : Nat) (bs : List UInt8) : Option (Bool × List UInt8) :=
  match bs.head? with
  | none => some (false, bs)
  | some b =>
      if !isTag b then none
      else if !isContextTag b || n < tagNumber b then some (false, bs)
      else if tagNumber b = n then some (true, bs)
      else
        match readElement? bs with
        | none => none
        | some (_, rest) => if rest.length < bs.length then seek? n rest else none
termination_by bs.length

/-- An optional context specific element with a given number, tag and content. -/
def optional (n : Nat) (reader : Reader α) : Reader (Option α) := do
  match seek? n (← get) with
  | none => failure
  | some (found, rest) =>
      set rest
      if found then some <$> reader else pure none

/-- An optional element wrapped in a context specific one. -/
def optionalExplicit (n : Nat) (reader : Reader α) : Reader (Option α) :=
  optional n (nested (explicitTag n) reader)

/-! ## Primitive values -/

/-- The content of an integer: in the fewest bytes, the first bit is the sign. -/
def isInteger : List UInt8 → Bool
  | [] => false
  | [_] => true
  | a :: b :: _ => !(a = 0 && b < 0x80) && !(a = 0xFF && 0x80 ≤ b)

/-- The content of an integer. -/
def integer : Reader (List UInt8) := do
  let bytes ← content 0x02
  if isInteger bytes then pure bytes else failure

/-- An integer that is not negative. -/
def natural : Reader Nat := do
  let bytes ← integer
  if bytes.head?.any (· < 0x80) then pure (toNat bytes) else failure

/-- The bytes of a bit string, with the number of bits that its last byte leaves
unused. -/
def bits? : List UInt8 → Option (Nat × List UInt8)
  | [] => none
  | unused :: bytes =>
      if 7 < unused || (unused ≠ 0 && bytes.isEmpty) then none else some (unused.toNat, bytes)

/-- A bit string in an element with a given tag. -/
def bitStringAs (tag : UInt8) : Reader (Nat × List UInt8) := do
  match bits? (← content tag) with
  | some b => pure b
  | none => failure

/-- A bit string. -/
def bitString : Reader (Nat × List UInt8) := bitStringAs 0x03

/-- A bit string of whole bytes. -/
def wholeBytes (b : Nat × List UInt8) : Reader (List UInt8) :=
  if b.1 = 0 then pure b.2 else failure

/-- A byte string. -/
def octetString : Reader (List UInt8) := content 0x04

/-- A truth value. -/
def boolean : Reader Bool := do
  match ← content 0x01 with
  | [0x00] => pure false
  | [0xFF] => pure true
  | _ => failure

example : encode 0x04 [1, 2] = [0x04, 0x02, 1, 2] := by decide +kernel
example : whole? octetString [0x04, 0x81, 0x01, 0x00] = none := by decide +kernel
example : whole? natural [0x02, 0x02, 0x00, 0x80] = some 0x80 := by decide +kernel

end VcenterAccess.Der
