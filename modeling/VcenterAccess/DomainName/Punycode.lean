/-!
# Punycode

A label with characters outside ASCII is written in ASCII: first the characters
of ASCII, then, after a hyphen, where the others are put in, in increasing order
of code points.  Each insertion is a number, the distance from the one before it
in a walk over code points and places, in digits to the base 36 of which the
least comes first.  The last digit of a number is the one below a threshold that
follows the sizes of the numbers so far.
-/

namespace VcenterAccess.DomainName.Punycode

/-- The character of a digit. -/
def digit (n : Nat) : Char := if n < 26 then Char.ofNat (0x61 + n) else Char.ofNat (0x16 + n)

/-- The digit of a character. -/
def value? (c : Char) : Option Nat :=
  if 'a' ≤ c ∧ c ≤ 'z' then some (c.toNat - 0x61)
  else if 'A' ≤ c ∧ c ≤ 'Z' then some (c.toNat - 0x41)
  else if '0' ≤ c ∧ c ≤ '9' then some (c.toNat - 0x16)
  else none

/-- The threshold of the digit at a place; places count in steps of 36. -/
def threshold (place bias : Nat) : Nat := max 1 (min 26 (place - bias))

theorem one_le_threshold (place bias : Nat) : 1 ≤ threshold place bias := by
  unfold threshold
  omega

/-- Divide by 35 until the number is at most 455, and count in steps of 36. -/
def scaleDown (n steps : Nat) : Nat × Nat :=
  if 455 < n then scaleDown (n / 35) (steps + 36) else (n, steps)
termination_by n
decreasing_by omega

/-- The bias after a number, of which `places` counts the places to put a
character in.  The first number weighs less. -/
def adapt (number places : Nat) (first : Bool) : Nat :=
  let n := if first then number / 700 else number / 2
  let (n, steps) := scaleDown (n + n / places) 0
  steps + 36 * n / (n + 38)

/-- The first bias. -/
def initialBias : Nat := 72

/-- The first code point that is put in. -/
def initialCodePoint : Nat := 0x80

/-! ## Writing -/

/-- The digits of a number. -/
def writeNumber (bias place n : Nat) : List Char :=
  let t := threshold place bias
  if n < t then [digit n]
  else digit (t + (n - t) % (36 - t)) :: writeNumber bias (place + 36) ((n - t) / (36 - t))
termination_by n
decreasing_by
  have h1 := one_le_threshold place bias
  exact Nat.lt_of_le_of_lt (Nat.div_le_self _ _) (by omega)

/-- A walk over code points and places. -/
structure Walk where
  /-- The characters put in so far, with those of ASCII. -/
  placed : Nat
  /-- The distance since the last insertion. -/
  distance : Nat := 0
  bias : Nat := initialBias

/-- Walk over one label for a code point, and write a number at each occurrence. -/
def writePass (basic codePoint : Nat) (w : Walk) : List Char → List Char × Walk
  | [] => ([], w)
  | c :: cs =>
      if c.toNat < codePoint then
        writePass basic codePoint { w with distance := w.distance + 1 } cs
      else if c.toNat = codePoint then
        let number := writeNumber w.bias 36 w.distance
        let (rest, w) := writePass basic codePoint
          ⟨w.placed + 1, 0, adapt w.distance (w.placed + 1) (w.placed == basic)⟩ cs
        (number ++ rest, w)
      else writePass basic codePoint w cs
termination_by structural cs => cs

/-- The numbers for the code points of a label, in increasing order; `next` is the
least code point that was not looked at. -/
def writePasses (label : List Char) (basic : Nat) (next : Nat) (w : Walk) :
    List Nat → List Char
  | [] => []
  | codePoint :: rest =>
      let w := { w with distance := w.distance + (codePoint - next) * (w.placed + 1) }
      let (out, w) := writePass basic codePoint w label
      out ++ writePasses label basic (codePoint + 1) { w with distance := w.distance + 1 } rest
termination_by structural rest => rest

/-- Put a number into an increasing list, once. -/
def insertOnce (n : Nat) : List Nat → List Nat
  | [] => [n]
  | m :: ms => if n < m then n :: m :: ms else if n = m then m :: ms else m :: insertOnce n ms
termination_by structural ms => ms

/-- Write a label. -/
def encode (label : List Char) : List Char :=
  let basic := label.filter fun c => c.toNat < initialCodePoint
  let others := (label.filter fun c => initialCodePoint ≤ c.toNat).map Char.toNat
  basic ++ (if basic.isEmpty then [] else ['-'])
    ++ writePasses label basic.length initialCodePoint { placed := basic.length }
        (others.foldr insertOnce [])

/-! ## Reading -/

/-- The number at the start, and what stands after it. -/
def readNumber? (bias place weight n : Nat) : List Char → Option (Nat × List Char)
  | [] => none
  | c :: cs =>
      match value? c with
      | none => none
      | some d =>
          if d < threshold place bias then some (n + d * weight, cs)
          else
            readNumber? bias (place + 36) (weight * (36 - threshold place bias)) (n + d * weight) cs
termination_by structural cs => cs

/-- A number has at least one digit. -/
theorem length_lt_of_readNumber? {bias : Nat} :
    ∀ {cs : List Char} {place weight n : Nat} {r : Nat × List Char},
      readNumber? bias place weight n cs = some r → r.2.length < cs.length
  | [], _, _, _, _, h => by simp [readNumber?] at h
  | c :: cs, place, weight, n, r, h => by
      unfold readNumber? at h
      split at h
      · simp at h
      · split at h
        · rw [← Option.some.inj h]
          simp
        · have := length_lt_of_readNumber? h
          simp only [List.length_cons]
          omega

/-- Put characters into a label as the numbers say.  `codePoint` and `place` are
where the walk stands. -/
def insertAll? (bias codePoint place : Nat) (label cs : List Char) : Option (List Char) :=
  if cs.isEmpty then some label
  else
    match h : readNumber? bias 36 1 0 cs with
    | none => none
    | some (number, rest) =>
        have : rest.length < cs.length := length_lt_of_readNumber? h
        let places := label.length + 1
        let codePoint' := codePoint + (place + number) / places
        let place' := (place + number) % places
        if codePoint'.isValidChar then
          insertAll? (adapt number places (place == 0)) codePoint'
            (place' + 1) (label.insertIdx place' (Char.ofNat codePoint')) rest
        else none
termination_by cs.length

/-- The characters before the last hyphen, and those after it.  A hyphen at the
start separates nothing. -/
def splitAtLastHyphen (cs : List Char) : List Char × List Char :=
  match cs.reverse.span (· ≠ '-') with
  | (tail, _ :: c :: head) => ((c :: head).reverse, tail.reverse)
  | _ => ([], cs)

/-- Read a label. -/
def decode? (cs : List Char) : Option (List Char) :=
  let (basic, numbers) := splitAtLastHyphen cs
  if basic.all fun c => c.toNat < initialCodePoint then
    insertAll? initialBias initialCodePoint 0 basic numbers
  else none

example : encode "bücher".toList = "bcher-kva".toList := by decide +kernel
example : decode? "bcher-kva".toList = some "bücher".toList := by decide +kernel
example : decode? "bcher-k".toList = none := by decide +kernel

end VcenterAccess.DomainName.Punycode
