import VcenterAccess.Base64
import VcenterAccess.Text.Strip
import VcenterAccess.Text.Utf8

/-!
# PEM armour

A PEM document is a body between two boundary lines that carry the same label.
Lines end in LF, CR LF or CR.  Text in front of the first boundary is passed
over; nothing but one line end may follow the last.

`parse?` finds the label and the body and does not look at the body, so a text
may be a PEM document whose body cannot be decoded.  `decode?` decodes the body:
base64 on lines of exactly 64 characters, the last one at most that long.
-/

namespace VcenterAccess.Pem

open Text

/-- A labelled body. -/
structure Envelope where
  /-- The label, which may be empty. -/
  label : List UInt8
  /-- What stands between the boundary lines. -/
  body : List UInt8
deriving DecidableEq, Repr

/-- The five dashes at either end of a boundary. -/
def dashes : List UInt8 := [0x2D, 0x2D, 0x2D, 0x2D, 0x2D]

/-- How the first boundary starts. -/
def opening : List UInt8 := dashes ++ [0x42, 0x45, 0x47, 0x49, 0x4E, 0x20]

/-- How the last boundary starts. -/
def closing : List UInt8 := dashes ++ [0x45, 0x4E, 0x44, 0x20]

example : Utf8.ofText "-----BEGIN " = opening := by decide
example : Utf8.ofText "-----END " = closing := by decide

/-- Whether a list starts with a word. -/
def startsWith (word bytes : List UInt8) : Bool := (stripStart? word bytes).isSome

/-- Pass the text in front of the first boundary, which ends in a line feed and
holds no NUL.  The first argument says whether a boundary may start here. -/
def passPreamble? : Bool → List UInt8 → Option (List UInt8)
  | _, [] => none
  | atLine, b :: bs =>
      if atLine && startsWith opening (b :: bs) then some (b :: bs)
      else if b = 0 then none
      else passPreamble? (b = 0x0A) bs
termination_by structural _ bs => bs

/-- Take a line end away from the start. -/
def stripLineEnd? : List UInt8 → Option (List UInt8)
  | 0x0D :: 0x0A :: rest => some rest
  | 0x0D :: rest => some rest
  | 0x0A :: rest => some rest
  | _ => none

/-- Take a line end away from the end. -/
def stripLastLineEnd? (bs : List UInt8) : Option (List UInt8) :=
  ((stripEnd? [0x0D, 0x0A] bs).or (stripEnd? [0x0A] bs)).or (stripEnd? [0x0D] bs)

/-- A character of labels that is no blank: printable ASCII but the dash. -/
def isLabelChar (b : UInt8) : Bool := (0x21 ≤ b && b ≤ 0x2C) || (0x2E ≤ b && b ≤ 0x7E)

/-- A blank inside a label. -/
def isLabelBlank (b : UInt8) : Bool := b = 0x20 || b = 0x09

/-- Read a label up to the next dash.  A blank may not stand first or behind
another one; `blankAllowed` says whether one may stand here. -/
def readLabel? (blankAllowed : Bool) : List UInt8 → Option (List UInt8 × List UInt8)
  | [] => some ([], [])
  | b :: bs =>
      if b = 0x2D then some ([], b :: bs)
      else if isLabelChar b then
        (readLabel? true bs).map fun (label, rest) => (b :: label, rest)
      else if blankAllowed && isLabelBlank b then
        (readLabel? false bs).map fun (label, rest) => (b :: label, rest)
      else none
termination_by structural bs => bs

/-- Read a PEM document. -/
def parse? (bs : List UInt8) : Option Envelope := do
  let bs ← stripStart? opening (← passPreamble? true bs)
  let (label, bs) ← readLabel? false bs
  let bs ← stripLineEnd? (← stripStart? dashes bs)
  let bs := (stripLastLineEnd? bs).getD bs
  let bs ← stripEnd? (closing ++ label ++ dashes) bs
  let body ← stripLastLineEnd? bs
  return ⟨label, body⟩

/-- The number of characters on a line of a body. -/
def lineWidth : Nat := 64

/-- Join the lines of a body. -/
def unwrap? (bs : List UInt8) : Option (List UInt8) :=
  if bs.length ≤ lineWidth then some ((stripLastLineEnd? bs).getD bs)
  else
    match stripLineEnd? (bs.drop lineWidth) with
    | none => none
    | some rest =>
        if rest.length < bs.length then
          if rest.isEmpty then some (bs.take lineWidth)
          else (unwrap? rest).map (bs.take lineWidth ++ ·)
        else none
termination_by bs.length

/-- The bytes of a body, which may not be empty. -/
def Envelope.decode? (e : Envelope) : Option (List UInt8) :=
  if e.body.isEmpty then none else (unwrap? e.body).bind Base64.decode?

/-- The bytes of a PEM document with a given label. -/
def decode? (label : List UInt8) (bs : List UInt8) : Option (List UInt8) :=
  (parse? bs).bind fun e => if e.label = label then e.decode? else none

end VcenterAccess.Pem
