import VcenterAccess.Text.Hex
import VcenterAccess.Text.Pieces

/-!
# IPv4 addresses

A host whose last part is a number is an IPv4 address.  It has up to four parts
between points; each is decimal, octal after a zero or hexadecimal after `0x`,
and the last one fills the bytes that the others leave.
-/

namespace VcenterAccess.Url

open Text

/-- An address of 32 bits. -/
structure Ipv4 where
  address : UInt32
deriving DecidableEq, Repr

namespace Ipv4

/-- The value of digits to a base. -/
def digits? (base : Nat) : Nat → List Char → Option Nat
  | n, [] => some n
  | n, c :: cs =>
      match Hex.value? c with
      | some d => if d < base then digits? base (n * base + d) cs else none
      | none => none
termination_by structural _ cs => cs

/-- The number that a part stands for. -/
def number? : List Char → Option Nat
  | [] => none
  | '0' :: 'x' :: cs => digits? 16 0 cs
  | '0' :: 'X' :: cs => digits? 16 0 cs
  | '0' :: c :: cs => digits? 8 0 (c :: cs)
  | cs => digits? 10 0 cs

/-- The parts of a host, without the empty one after a point at the end. -/
def parts (host : List Char) : List (List Char) :=
  let parts := pieces '.' host
  if 1 < parts.length && parts.getLast? = some [] then parts.dropLast else parts

/-- Whether a host has to be an address. -/
def endsInNumber (host : List Char) : Bool :=
  (parts host).getLast?.any fun part =>
    (!part.isEmpty && part.all Char.isDigit) || (number? part).isSome

/-- The address of numbers.  All but the last are bytes. -/
def ofNumbers? : List Nat → Nat → Option Nat
  | [], _ => none
  | [n], room => if n < room then some n else none
  | n :: ns, room =>
      if n < 256 then (ofNumbers? ns (room / 256)).map (n * (room / 256) + ·) else none

/-- The address that a host stands for. -/
def parse? (host : List Char) : Option Ipv4 := do
  let parts := parts host
  guard (parts.length ≤ 4)
  let numbers ← parts.mapM number?
  let address ← ofNumbers? numbers UInt32.size
  return ⟨UInt32.ofNat address⟩

/-- Four bytes with points between them. -/
def text (a : Ipv4) : String :=
  let n := a.address.toNat
  toString (n / 0x1000000) ++ "." ++ toString (n / 0x10000 % 0x100) ++ "."
    ++ toString (n / 0x100 % 0x100) ++ "." ++ toString (n % 0x100)

example : (parse? "127.1".toList).map text = some "127.0.0.1" := by decide
example : (parse? "0x.0x".toList).map text = some "0.0.0.0" := by decide
example : parse? "256.1.1.1".toList = none := by decide

end Ipv4

end VcenterAccess.Url
