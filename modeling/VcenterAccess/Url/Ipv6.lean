import VcenterAccess.Text.Hex
import VcenterAccess.Text.Pieces
import VcenterAccess.Text.Strip

/-!
# IPv6 addresses

Eight numbers of up to four digits with colons between them.  Two colons stand
once for at least one zero, and the last two numbers may have the form of an
IPv4 address.  An address is written in small digits, with two colons for the
first of its longest runs of zeros.
-/

namespace VcenterAccess.Url

open Text

/-- An address of eight numbers. -/
structure Ipv6 where
  numbers : List UInt16
deriving DecidableEq, Repr

namespace Ipv6

/-- The number of one to four digits. -/
def group? (cs : List Char) : Option UInt16 :=
  if cs.isEmpty || 4 < cs.length then none
  else
    (cs.foldl (fun n c => do return (← n) * 16 + (← Hex.value? c)) (some 0)).map UInt16.ofNat

/-- A decimal number below 256 without a leading zero. -/
def byte? (cs : List Char) : Option Nat :=
  if cs.isEmpty || 3 < cs.length || !cs.all Char.isDigit then none
  else if 1 < cs.length && cs.head? = some '0' then none
  else
    let n := cs.foldl (fun n c => n * 10 + (c.toNat - 0x30)) 0
    if n < 256 then some n else none

/-- The two numbers of four bytes with points between them. -/
def dotted? (cs : List Char) : Option (List UInt16) := do
  match ← (pieces '.' cs).mapM byte? with
  | [a, b, c, d] => return [UInt16.ofNat (a * 256 + b), UInt16.ofNat (c * 256 + d)]
  | _ => none

/-- The numbers of groups; the last one may be dotted if it ends the address. -/
def groups? (atEnd : Bool) : List (List Char) → Option (List UInt16)
  | [] => some []
  | [g] => if atEnd && g.contains '.' then dotted? g else (group? g).map ([·])
  | g :: gs => do return (← group? g) :: (← groups? atEnd gs)

/-- The numbers of a text that may be empty. -/
def run? (atEnd : Bool) (cs : List Char) : Option (List UInt16) :=
  if cs.isEmpty then some [] else groups? atEnd (pieces ':' cs)

/-- The texts before and after the first two colons in a row. -/
def splitAtDoubleColon? : List Char → Option (List Char × List Char)
  | [] => none
  | [_] => none
  | c :: d :: cs =>
      if c = ':' && d = ':' then some ([], cs)
      else (splitAtDoubleColon? (d :: cs)).map fun s => (c :: s.1, s.2)

/-- Read an address. -/
def parse? (cs : List Char) : Option Ipv6 :=
  match splitAtDoubleColon? cs with
  | none => do
      let numbers ← run? true cs
      if numbers.length = 8 then some ⟨numbers⟩ else none
  | some (left, right) => do
      let left ← run? false left
      let right ← run? true right
      let zeros := 8 - (left.length + right.length)
      if 0 < zeros then some ⟨left ++ List.replicate zeros 0 ++ right⟩ else none

/-- The number of zeros at the start. -/
def leadingZeros (numbers : List UInt16) : Nat := (numbers.takeWhile (· = 0)).length

/-- The length of the longest run of zeros. -/
def longestRun : List UInt16 → Nat
  | [] => 0
  | n :: ns => max (leadingZeros (n :: ns)) (longestRun ns)
termination_by structural ns => ns

/-- The numbers before and after the first run of zeros of a length. -/
def splitAtRun (length : Nat) : List UInt16 → List UInt16 × List UInt16
  | [] => ([], [])
  | n :: ns =>
      if leadingZeros (n :: ns) = length then ([], (n :: ns).drop length)
      else
        let (before, after) := splitAtRun length ns
        (n :: before, after)
termination_by structural ns => ns

/-- Numbers with colons between them. -/
def groupsText (numbers : List UInt16) : List Char :=
  joinPieces ':' (numbers.map fun n => Hex.ofNat n.toNat)

/-- Write an address. -/
def text (a : Ipv6) : String :=
  let zeros := longestRun a.numbers
  if zeros < 2 then String.ofList (groupsText a.numbers)
  else
    let (before, after) := splitAtRun zeros a.numbers
    String.ofList (groupsText before ++ [':', ':'] ++ groupsText after)

example : (parse? "1:0:0:2:0:0:0:3".toList).map text = some "1:0:0:2::3" := by decide
example : (parse? "::1.2.3.4".toList).map text = some "::102:304" := by decide
example : parse? "1::2::3".toList = none := by decide
example : parse? "1:2:3:4:5:6:7::8".toList = none := by decide

end Ipv6

end VcenterAccess.Url
