import VcenterAccess.Text.Hex
import VcenterAccess.Text.Utf8

/-!
# JSON values

A reader for JSON in bytes.  It keeps what can be asked of a value: the text of a
string, the elements of an array, the members of an object in their order.  A
string is part of the value even if no text can have its characters, because half
of a surrogate pair is missing or its bytes are not UTF-8; it has no text then.

Values nest, so the reader counts the steps that it may still take.  Every step
reads at least one byte, so `parse?` never runs out of them.
-/

namespace VcenterAccess.Json

open Text

/-- A JSON value. -/
inductive Value where
  /-- The absent value. -/
  | null
  /-- A truth value. -/
  | bool (b : Bool)
  /-- A number, of which nothing is kept. -/
  | number
  /-- A string, with its text if there is one. -/
  | string (text : Option String)
  | array (elements : List Value)
  /-- An object.  Names may occur more than once. -/
  | object (members : List (Option String × Value))
deriving Repr

/-! ## Strings -/

/-- A part of a string: a byte that stands for itself, or the code unit of an
escape. -/
inductive StringPart where
  /-- A byte of UTF-8. -/
  | byte (b : UInt8)
  /-- A code unit of UTF-16. -/
  | unit (n : Nat)
deriving DecidableEq, Repr

/-- Where the reader of a string stands. -/
inductive StringPlace where
  /-- Among the characters. -/
  | plain
  /-- Behind a backslash. -/
  | escaped
  /-- Among the digits of a code unit, of which some are left. -/
  | digits (left value : Nat)
deriving DecidableEq, Repr

/-- The byte that a letter stands for behind a backslash. -/
def escape? (b : UInt8) : Option UInt8 :=
  match Char.ofNat b.toNat with
  | '"' => some 0x22
  | '\\' => some 0x5C
  | '/' => some 0x2F
  | 'b' => some 0x08
  | 'f' => some 0x0C
  | 'n' => some 0x0A
  | 'r' => some 0x0D
  | 't' => some 0x09
  | _ => none

/-- The parts of a string behind its first quote, and what stands behind its last. -/
def stringParts? : StringPlace → List UInt8 → Option (List StringPart × List UInt8)
  | _, [] => none
  | .plain, b :: bs =>
      if b = 0x22 then some ([], bs)
      else if b = 0x5C then stringParts? .escaped bs
      else if b < 0x20 then none
      else (stringParts? .plain bs).map fun r => (.byte b :: r.1, r.2)
  | .escaped, b :: bs =>
      if b = 0x75 then stringParts? (.digits 4 0) bs
      else
        match escape? b with
        | some e => (stringParts? .plain bs).map fun r => (.byte e :: r.1, r.2)
        | none => none
  | .digits left value, b :: bs =>
      match Hex.value? (Char.ofNat b.toNat) with
      | none => none
      | some d =>
          if left ≤ 1 then
            (stringParts? .plain bs).map fun r => (.unit (value * 16 + d) :: r.1, r.2)
          else stringParts? (.digits (left - 1) (value * 16 + d)) bs
termination_by structural _ bs => bs

/-- Whether a code unit is the first half of a surrogate pair. -/
def isHighSurrogate (n : Nat) : Bool := 0xD800 ≤ n && n < 0xDC00

/-- Whether a code unit is the second half of a surrogate pair. -/
def isLowSurrogate (n : Nat) : Bool := 0xDC00 ≤ n && n < 0xE000

/-- The bytes of the parts of a string, if each half of a pair has its other half. -/
def bytes? : List StringPart → Option (List UInt8)
  | [] => some []
  | .byte b :: rest => (bytes? rest).map (b :: ·)
  | [.unit n] =>
      if isHighSurrogate n || isLowSurrogate n then none
      else some (String.utf8EncodeChar (Char.ofNat n))
  | .unit n :: .byte b :: rest =>
      if isHighSurrogate n || isLowSurrogate n then none
      else (bytes? (.byte b :: rest)).map (String.utf8EncodeChar (Char.ofNat n) ++ ·)
  | .unit n :: .unit m :: rest =>
      if isHighSurrogate n && isLowSurrogate m then
        let c := Char.ofNat (0x10000 + (n - 0xD800) * 0x400 + (m - 0xDC00))
        (bytes? rest).map (String.utf8EncodeChar c ++ ·)
      else if isHighSurrogate n || isLowSurrogate n then none
      else (bytes? (.unit m :: rest)).map (String.utf8EncodeChar (Char.ofNat n) ++ ·)

/-- The text of a string behind its first quote, if it has one, and what stands
behind its last quote. -/
def string? (bs : List UInt8) : Option (Option String × List UInt8) :=
  (stringParts? .plain bs).map fun r => ((bytes? r.1).bind Utf8.toText?, r.2)

/-! ## Numbers and words -/

/-- Whether a byte is blank. -/
def isBlank (b : UInt8) : Bool := b = 0x20 || b = 0x0A || b = 0x0D || b = 0x09

/-- Whether a byte is a digit. -/
def isDigit (b : UInt8) : Bool := 0x30 ≤ b && b ≤ 0x39

/-- What stands after one digit or more. -/
def afterDigits? : List UInt8 → Option (List UInt8)
  | b :: bs => if isDigit b then some (bs.dropWhile isDigit) else none
  | [] => none

/-- What stands after the whole part of a number.  Only zero starts with a zero. -/
def afterWhole? : List UInt8 → Option (List UInt8)
  | b :: bs =>
      if b = 0x30 then if bs.head?.any isDigit then none else some bs
      else afterDigits? (b :: bs)
  | [] => none

/-- What stands after the fraction of a number, if it has one. -/
def afterFraction? : List UInt8 → Option (List UInt8)
  | b :: bs => if b = 0x2E then afterDigits? bs else some (b :: bs)
  | [] => some []

/-- What stands after a sign, if there is one. -/
def dropSign : List UInt8 → List UInt8
  | b :: bs => if b = 0x2B || b = 0x2D then bs else b :: bs
  | [] => []

/-- What stands after the exponent of a number, if it has one. -/
def afterExponent? : List UInt8 → Option (List UInt8)
  | b :: bs => if b = 0x65 || b = 0x45 then afterDigits? (dropSign bs) else some (b :: bs)
  | [] => some []

/-- What stands after a number. -/
def afterNumber? (bs : List UInt8) : Option (List UInt8) :=
  let bs := match bs with
    | b :: rest => if b = 0x2D then rest else bs
    | [] => bs
  do afterExponent? (← afterFraction? (← afterWhole? bs))

/-- What stands after a word. -/
def afterWord? (word : String) (bs : List UInt8) : Option (List UInt8) :=
  let bytes := Utf8.ofText word
  if bytes.isPrefixOf bs then some (bs.drop bytes.length) else none

/-- A value that contains no others. -/
def scalar? (bs : List UInt8) : Option (Value × List UInt8) :=
  match afterWord? "null" bs, afterWord? "true" bs, afterWord? "false" bs with
  | some rest, _, _ => some (.null, rest)
  | _, some rest, _ => some (.bool true, rest)
  | _, _, some rest => some (.bool false, rest)
  | _, _, _ => (afterNumber? bs).map fun rest => (.number, rest)

/-! ## Values -/

mutual

/-- The value at the start, and what stands after it. -/
def value? : Nat → List UInt8 → Option (Value × List UInt8)
  | 0, _ => none
  | steps + 1, bs =>
      match bs.dropWhile isBlank with
      | [] => none
      | b :: rest =>
          if b = 0x22 then (string? rest).map fun r => (.string r.1, r.2)
          else if b = 0x5B then
            match rest.dropWhile isBlank with
            | 0x5D :: rest => some (.array [], rest)
            | rest => (elements? steps rest).map fun r => (.array r.1, r.2)
          else if b = 0x7B then
            match rest.dropWhile isBlank with
            | 0x7D :: rest => some (.object [], rest)
            | rest => (members? steps rest).map fun r => (.object r.1, r.2)
          else scalar? (b :: rest)
termination_by structural steps => steps

/-- The elements of an array up to its end. -/
def elements? : Nat → List UInt8 → Option (List Value × List UInt8)
  | 0, _ => none
  | steps + 1, bs =>
      match value? steps bs with
      | none => none
      | some (v, rest) =>
          match rest.dropWhile isBlank with
          | 0x2C :: rest => (elements? steps rest).map fun r => (v :: r.1, r.2)
          | 0x5D :: rest => some ([v], rest)
          | _ => none
termination_by structural steps => steps

/-- The members of an object up to its end. -/
def members? : Nat → List UInt8 → Option (List (Option String × Value) × List UInt8)
  | 0, _ => none
  | steps + 1, bs =>
      match bs.dropWhile isBlank with
      | 0x22 :: rest =>
          match string? rest with
          | none => none
          | some (name, rest) =>
              match rest.dropWhile isBlank with
              | 0x3A :: rest =>
                  match value? steps rest with
                  | none => none
                  | some (v, rest) =>
                      match rest.dropWhile isBlank with
                      | 0x2C :: rest =>
                          (members? steps rest).map fun r => ((name, v) :: r.1, r.2)
                      | 0x7D :: rest => some ([(name, v)], rest)
                      | _ => none
              | _ => none
      | _ => none
termination_by structural steps => steps

end

/-- Read a value that fills the bytes. -/
def parse? (bs : List UInt8) : Option Value :=
  match value? (2 * bs.length + 1) bs with
  | some (v, rest) => if rest.all isBlank then some v else none
  | none => none

end VcenterAccess.Json
