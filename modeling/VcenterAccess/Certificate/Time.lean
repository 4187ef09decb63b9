import VcenterAccess.Der.Reader

/-!
# Times in certificates

A time is written in digits, with two of them for the year or with four, and
ends in `Z`.  It has to be in the calendar and not before 1970.
-/

namespace VcenterAccess.Certificate

open Der

/-- The number of two digits. -/
def twoDigits? (a b : UInt8) : Option Nat :=
  if 0x30 ≤ a && a ≤ 0x39 && 0x30 ≤ b && b ≤ 0x39 then
    some ((a.toNat - 0x30) * 10 + (b.toNat - 0x30))
  else none

/-- Whether a year has a 29th of February. -/
def isLeapYear (year : Nat) : Bool := year % 4 = 0 && (year % 100 ≠ 0 || year % 400 = 0)

/-- The number of days of a month. -/
def daysOf (year month : Nat) : Nat :=
  if month = 2 then if isLeapYear year then 29 else 28
  else if month = 4 || month = 6 || month = 9 || month = 11 then 30
  else 31

/-- Whether digits behind a year are a month, a day, an hour, a minute and a
second of it. -/
def isWithin (year : Nat) : List UInt8 → Bool
  | [a, b, c, d, e, f, g, h, i, j, 0x5A] =>
      match twoDigits? a b, twoDigits? c d, twoDigits? e f, twoDigits? g h, twoDigits? i j with
      | some month, some day, some hour, some minute, some second =>
          1970 ≤ year && 1 ≤ month && month ≤ 12 && 1 ≤ day && day ≤ daysOf year month && hour < 24
            && minute < 60 && second < 60
      | _, _, _, _, _ => false
  | _ => false

/-- Whether a content is a time with a year of two digits; those from 50 on are in
the twentieth century. -/
def isShortTime : List UInt8 → Bool
  | a :: b :: rest =>
      match twoDigits? a b with
      | some y => isWithin (if 50 ≤ y then 1900 + y else 2000 + y) rest
      | none => false
  | _ => false

/-- Whether a content is a time with a year of four digits. -/
def isLongTime : List UInt8 → Bool
  | a :: b :: c :: d :: rest =>
      match twoDigits? a b, twoDigits? c d with
      | some century, some y => isWithin (century * 100 + y) rest
      | _, _ => false
  | _ => false

/-- A time in either form. -/
def time : Reader Unit := do
  let e ← element
  if (e.tag = 0x17 && isShortTime e.content) || (e.tag = 0x18 && isLongTime e.content) then pure ()
  else failure

end VcenterAccess.Certificate
