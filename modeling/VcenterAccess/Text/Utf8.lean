/-!
# UTF-8

Texts as bytes and bytes as texts.  Encoding is the standard library's
`String.utf8EncodeChar`, character by character.

Decoding walks the bytes one by one with what it still expects of the character
it is in (`Pending`).  A byte that does not continue that character ends it: the
bytes seen so far are one *maximal invalid part*, and the byte is looked at
again as a first byte.  `scan` lists the characters and, as `none`, the invalid
parts.  `decodeLossy` puts U+FFFD for each of them, `decode?` fails on the
first.

`scan_concat_ascii` says that an ASCII byte at the end never melts into what
comes before it, whatever that is.
-/

namespace VcenterAccess.Text.Utf8

/-- What is still expected of a character whose first bytes were seen. -/
structure Pending where
  /-- The bits seen so far. -/
  bits : Nat
  /-- The continuation bytes still missing, less one. -/
  missing : Nat
  /-- The least value of the next byte. -/
  least : UInt8
  /-- The greatest value of the next byte. -/
  greatest : UInt8
deriving DecidableEq, Repr

/-- What a first byte announces. -/
inductive Start where
  /-- The byte is a character of its own. -/
  | single
  /-- The byte opens a character of several bytes. -/
  | opens (p : Pending)
  /-- No character starts with the byte. -/
  | invalid
deriving DecidableEq, Repr

/-- Classify a first byte.  The ranges of the second byte keep out overlong
forms, surrogates and values above U+10FFFF. -/
def start (b : UInt8) : Start :=
  if b < 0x80 then .single
  else if b < 0xC2 then .invalid
  else if b < 0xE0 then .opens ⟨b.toNat - 0xC0, 0, 0x80, 0xBF⟩
  else if b = 0xE0 then .opens ⟨0, 1, 0xA0, 0xBF⟩
  else if b = 0xED then .opens ⟨0xD, 1, 0x80, 0x9F⟩
  else if b < 0xF0 then .opens ⟨b.toNat - 0xE0, 1, 0x80, 0xBF⟩
  else if b = 0xF0 then .opens ⟨0, 2, 0x90, 0xBF⟩
  else if b < 0xF4 then .opens ⟨b.toNat - 0xF0, 2, 0x80, 0xBF⟩
  else if b = 0xF4 then .opens ⟨4, 2, 0x80, 0x8F⟩
  else .invalid

/-- Read a byte where a character may start. -/
def scanStart (b : UInt8) : Option (Option Char) × Option Pending :=
  match start b with
  | .single => (some (some (Char.ofNat b.toNat)), none)
  | .opens p => (none, some p)
  | .invalid => (some none, none)

/-- The characters of a byte sequence, with `none` for each maximal invalid part. -/
def scan : Option Pending → List UInt8 → List (Option Char)
  | none, [] => []
  | some _, [] => [none]
  | none, b :: bs =>
      match scanStart b with
      | (some c, p) => c :: scan p bs
      | (none, p) => scan p bs
  | some p, b :: bs =>
      if p.least ≤ b ∧ b ≤ p.greatest then
        let bits := p.bits * 64 + (b.toNat - 0x80)
        match p.missing with
        | 0 => some (Char.ofNat bits) :: scan none bs
        | n + 1 => scan (some ⟨bits, n, 0x80, 0xBF⟩) bs
      else
        match scanStart b with
        | (some c, q) => none :: c :: scan q bs
        | (none, q) => none :: scan q bs
termination_by structural _ bs => bs

/-- Decode, with U+FFFD for each maximal invalid part. -/
def decodeLossy (bs : List UInt8) : List Char :=
  (scan none bs).map fun c => c.getD '\uFFFD'

/-- All values of a list of optional values, if none is missing. -/
def collect {α : Type} : List (Option α) → Option (List α)
  | [] => some []
  | none :: _ => none
  | some a :: rest => (collect rest).map (a :: ·)
termination_by structural l => l

/-- Decode, failing on an invalid part. -/
def decode? (bs : List UInt8) : Option (List Char) := collect (scan none bs)

/-- The bytes of a text. -/
def encode (cs : List Char) : List UInt8 := cs.flatMap String.utf8EncodeChar

/-- The text of the bytes, with U+FFFD for each maximal invalid part. -/
def toText (bs : List UInt8) : String := String.ofList (decodeLossy bs)

/-- The text of the bytes, if they are valid. -/
def toText? (bs : List UInt8) : Option String := (decode? bs).map String.ofList

/-- The bytes of a text. -/
def ofText (s : String) : List UInt8 := encode s.toList

theorem scanStart_of_ascii {b : UInt8} (h : b < 0x80) :
    scanStart b = (some (some (Char.ofNat b.toNat)), none) := by
  simp [scanStart, start, h]

/-- No byte expected inside a character is an ASCII byte. -/
def Pending.Above (p : Pending) : Prop := 0x80 ≤ p.least

theorem above_of_start {b : UInt8} {p : Pending} (h : start b = .opens p) : p.Above := by
  unfold start at h
  repeat' split at h
  all_goals simp only [Start.opens.injEq, reduceCtorEq] at h
  all_goals
    subst h
    simp [Pending.Above]

/-- An ASCII byte at the end is read as itself, whatever comes before it. -/
theorem scan_concat_ascii {b : UInt8} (hb : b < 0x80) :
    ∀ (bs : List UInt8) (p : Option Pending), (∀ q, p = some q → q.Above) →
      scan p (bs ++ [b]) = scan p bs ++ [some (Char.ofNat b.toNat)]
  | [], none, _ => by simp [scan, scanStart_of_ascii hb]
  | [], some q, hq => by
      have hlt : b < q.least := UInt8.lt_of_lt_of_le hb (hq q rfl)
      have : ¬ (q.least ≤ b ∧ b ≤ q.greatest) := fun h => UInt8.not_le.mpr hlt h.1
      simp [scan, this, scanStart_of_ascii hb]
  | c :: bs, none, _ => by
      have ihn := scan_concat_ascii hb bs none (by simp)
      cases hs : start c with
      | single => simp [scan, scanStart, hs, ihn]
      | invalid => simp [scan, scanStart, hs, ihn]
      | opens p =>
          have ih := scan_concat_ascii hb bs (some p) (fun q hq => Option.some.inj hq ▸ above_of_start hs)
          simp [scan, scanStart, hs, ih]
  | c :: bs, some q, hq => by
      have ihn := scan_concat_ascii hb bs none (by simp)
      by_cases hin : q.least ≤ c ∧ c ≤ q.greatest
      · cases hm : q.missing with
        | zero => simp [scan, hin, hm, ihn]
        | succ n =>
            have ih := scan_concat_ascii hb bs
              (some ⟨q.bits * 64 + (c.toNat - 0x80), n, 0x80, 0xBF⟩) (by
                intro r hr
                rw [← Option.some.inj hr]
                exact UInt8.le_refl _)
            simp [scan, hin, hm, ih]
      · cases hs : start c with
        | single => simp [scan, hin, scanStart, hs, ihn]
        | invalid => simp [scan, hin, scanStart, hs, ihn]
        | opens p =>
            have ih := scan_concat_ascii hb bs (some p) (fun r hr => Option.some.inj hr ▸ above_of_start hs)
            simp [scan, hin, scanStart, hs, ih]

/-- Two invalid parts: an overlong form is not read across its second byte. -/
example : decodeLossy [0x61, 0xC0, 0xAF, 0xE2, 0x82, 0x0A]
    = ['a', '\uFFFD', '\uFFFD', '\uFFFD', '\n'] := by decide
example : decode? [0xF0, 0x9F, 0x98, 0x80] = some ['😀'] := by decide
example : decode? [0xED, 0xA0, 0x80] = none := by decide

end VcenterAccess.Text.Utf8
