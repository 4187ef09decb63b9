import VcenterAccess.Proofs.Text.ByteOrder
import VcenterAccess.Text.Blank

/-!
# Decoding what was encoded

A text is read back from its bytes (`decodeLossy_encode`).  A character is read
byte by byte: the first byte opens it (`Opens`), each further byte adds six bits
to those seen so far, and after the last one they are the number of the
character (`scan_encodeChar`).  The bounds that a first byte puts on the second
one are kept because no character is a surrogate and none is encoded longer than
it has to be.

Line feeds at the end of a text are cut (`trimNewlines_append_replicate`), and
nothing is cut from a text that does not end in one (`trimNewlines_eq_self`).
-/

namespace VcenterAccess.Text

namespace Utf8

/-! ## First bytes -/

/-- The byte `b` opens a character with the given bits, in which `c` may come next. -/
def Opens (b : UInt8) (bits missing : Nat) (c : UInt8) : Prop :=
  ∃ p, start b = .opens p ∧ p.bits = bits ∧ p.missing = missing ∧ p.least ≤ c ∧ c ≤ p.greatest

theorem opens_two {b c : UInt8} {v : Nat} (hb : b.toNat = v / 64 % 32 + 192)
    (hc : c.toNat = v % 64 + 128) (hlo : 0x80 ≤ v) (hhi : v < 0x800) : Opens b (v / 64) 0 c := by
  unfold Opens start
  simp only [UInt8.lt_iff_toNat_lt, UInt8.le_iff_toNat_le, UInt8.reduceToNat]
  rw [if_neg (by omega), if_neg (by omega), if_pos (by omega)]
  refine ⟨_, rfl, ?_, rfl, ?_, ?_⟩ <;> simp only [UInt8.reduceToNat] <;> omega

/-- The second byte tells apart what is too short for three bytes and what is a surrogate. -/
theorem opens_three {b c : UInt8} {v : Nat} (hb : b.toNat = v / 4096 % 16 + 224)
    (hc : c.toNat = v / 64 % 64 + 128) (hlo : 0x800 ≤ v) (hhi : v < 0x10000)
    (hsurrogate : v < 0xD800 ∨ 0xDFFF < v) : Opens b (v / 4096) 1 c := by
  unfold Opens start
  simp only [UInt8.lt_iff_toNat_lt, ← UInt8.toNat_inj, UInt8.le_iff_toNat_le, UInt8.reduceToNat]
  rw [if_neg (by omega), if_neg (by omega), if_neg (by omega)]
  repeat' split
  all_goals first | omega | skip
  all_goals refine ⟨_, rfl, ?_, rfl, ?_, ?_⟩ <;> simp only [UInt8.reduceToNat] <;> omega

/-- The second byte tells apart what is too short for four bytes and what is no character. -/
theorem opens_four {b c : UInt8} {v : Nat} (hb : b.toNat = v / 262144 % 8 + 240)
    (hc : c.toNat = v / 4096 % 64 + 128) (hlo : 0x10000 ≤ v) (hhi : v < 0x110000) :
    Opens b (v / 262144) 2 c := by
  unfold Opens start
  simp only [UInt8.lt_iff_toNat_lt, ← UInt8.toNat_inj, UInt8.le_iff_toNat_le, UInt8.reduceToNat]
  rw [if_neg (by omega), if_neg (by omega), if_neg (by omega), if_neg (by omega),
    if_neg (by omega), if_neg (by omega)]
  repeat' split
  all_goals first | omega | skip
  all_goals refine ⟨_, rfl, ?_, rfl, ?_, ?_⟩ <;> simp only [UInt8.reduceToNat] <;> omega

/-! ## Further bytes -/

theorem scan_next {bits missing : Nat} {least greatest b : UInt8} (h : least ≤ b ∧ b ≤ greatest)
    (bs : List UInt8) :
    scan (some ⟨bits, missing + 1, least, greatest⟩) (b :: bs) =
      scan (some ⟨bits * 64 + (b.toNat - 0x80), missing, 0x80, 0xBF⟩) bs := by
  rw [scan, if_pos h]

theorem scan_last {bits : Nat} {least greatest b : UInt8} (h : least ≤ b ∧ b ≤ greatest)
    (bs : List UInt8) :
    scan (some ⟨bits, 0, least, greatest⟩) (b :: bs) =
      some (Char.ofNat (bits * 64 + (b.toNat - 0x80))) :: scan none bs := by
  rw [scan, if_pos h]

theorem Opens.scan {b c : UInt8} {bits missing : Nat} (h : Opens b bits missing c) :
    ∃ least greatest, (least ≤ c ∧ c ≤ greatest) ∧
      ∀ bs, scan none (b :: bs) = scan (some ⟨bits, missing, least, greatest⟩) bs := by
  obtain ⟨p, hstart, rfl, rfl, hbounds⟩ := h
  exact ⟨p.least, p.greatest, hbounds, fun bs => by rw [Utf8.scan, scanStart, hstart]⟩

/-- The bounds of a further byte. -/
theorem bounds_of_toNat {b : UInt8} {v : Nat} (h : b.toNat = v % 64 + 128) :
    0x80 ≤ b ∧ b ≤ 0xBF := by
  simp only [UInt8.le_iff_toNat_le, UInt8.reduceToNat]
  omega

/-- A number below 256 is kept by its byte. -/
theorem toNat_ofNat_of_lt {n : Nat} (h : n < 256) : (UInt8.ofNat n).toNat = n := by
  rw [UInt8.toNat_ofNat', Nat.mod_eq_of_lt h]

/-! ## Characters and texts -/

/-- An encoded character is read as itself. -/
theorem scan_encodeChar (c : Char) (bs : List UInt8) :
    scan none (String.utf8EncodeChar c ++ bs) = some c :: scan none bs := by
  have hvalid : c.val.toNat < 0xD800 ∨ 0xDFFF < c.val.toNat ∧ c.val.toNat < 0x110000 := c.valid
  have hchar : Char.ofNat c.val.toNat = c := Char.ofNat_toNat c
  unfold String.utf8EncodeChar
  generalize c.val.toNat = v at hvalid hchar
  subst hchar
  have hlast : (UInt8.ofNat (v % 64 + 128)).toNat = v % 64 + 128 := toNat_ofNat_of_lt (by omega)
  have hthird : (UInt8.ofNat (v / 64 % 64 + 128)).toNat = v / 64 % 64 + 128 :=
    toNat_ofNat_of_lt (by omega)
  have hsecond : (UInt8.ofNat (v / 4096 % 64 + 128)).toNat = v / 4096 % 64 + 128 :=
    toNat_ofNat_of_lt (by omega)
  simp only
  split
  · next hone =>
    have hv : (UInt8.ofNat v).toNat = v := toNat_ofNat_of_lt (by omega)
    have hascii : UInt8.ofNat v < 0x80 := by
      rw [UInt8.lt_iff_toNat_lt, hv]
      exact Nat.lt_succ_of_le hone
    rw [List.singleton_append, scan, scanStart_of_ascii hascii, hv]
  · split
    · next hone htwo =>
      have hopens := opens_two (toNat_ofNat_of_lt (by omega)) hlast (by omega) (by omega)
      obtain ⟨least, greatest, hbounds, hscan⟩ := hopens.scan
      rw [List.cons_append, hscan, List.singleton_append, scan_last hbounds, hlast]
      have hv : v / 64 * 64 + (v % 64 + 128 - 0x80) = v := by omega
      rw [hv]
    · split
      · next hone htwo hthree =>
        have hopens := opens_three (toNat_ofNat_of_lt (by omega)) hthird (by omega) (by omega)
          (hvalid.imp id And.left)
        obtain ⟨least, greatest, hbounds, hscan⟩ := hopens.scan
        rw [List.cons_append, hscan, List.cons_append, scan_next hbounds, List.singleton_append,
          scan_last (bounds_of_toNat hlast), hthird, hlast]
        have hv : (v / 4096 * 64 + (v / 64 % 64 + 128 - 0x80)) * 64 +
            (v % 64 + 128 - 0x80) = v := by omega
        rw [hv]
      · next hone htwo hthree =>
        have hopens := opens_four (toNat_ofNat_of_lt (by omega)) hsecond (by omega) (by omega)
        obtain ⟨least, greatest, hbounds, hscan⟩ := hopens.scan
        rw [List.cons_append, hscan, List.cons_append, scan_next hbounds, List.cons_append,
          scan_next (bounds_of_toNat hthird), List.singleton_append,
          scan_last (bounds_of_toNat hlast), hsecond, hthird, hlast]
        have hv : ((v / 262144 * 64 + (v / 4096 % 64 + 128 - 0x80)) * 64 +
            (v / 64 % 64 + 128 - 0x80)) * 64 + (v % 64 + 128 - 0x80) = v := by omega
        rw [hv]

theorem scan_encode (cs : List Char) : scan none (encode cs) = cs.map some := by
  induction cs with
  | nil => rfl
  | cons c cs ih =>
      rw [encode, List.flatMap_cons, scan_encodeChar, List.map_cons]
      exact congrArg _ ih

/-- A text is read back from its bytes. -/
theorem decodeLossy_encode (cs : List Char) : decodeLossy (encode cs) = cs := by
  rw [decodeLossy, scan_encode, List.map_map]
  exact List.map_id' cs

end Utf8

/-! ## Line feeds at the end -/

/-- The text ends in a line feed. -/
def EndsInNewline (s : String) : Prop := s.toList.getLast? = some '\n'

instance (s : String) : Decidable (EndsInNewline s) := inferInstanceAs (Decidable (_ = _))

theorem trimNewlines_append_replicate (cs : List Char) (n : Nat) :
    trimNewlines (cs ++ List.replicate n '\n') = trimNewlines cs := by
  induction n with
  | zero => rw [List.replicate_zero, List.append_nil]
  | succ n ih =>
      rw [List.replicate_succ', ← List.append_assoc, trimNewlines, dropEndWhile_concat]
      exact ih

theorem trimNewlines_eq_self {cs : List Char} (h : cs.getLast? ≠ some '\n') :
    trimNewlines cs = cs := by
  rcases List.eq_nil_or_concat cs with rfl | ⟨cs, c, rfl⟩
  · rfl
  · have hc : ¬ (c == '\n') = true := fun hc => h (by
      rw [List.concat_eq_append, List.getLast?_concat, eq_of_beq hc])
    rw [trimNewlines, List.concat_eq_append, dropEndWhile_concat, if_neg hc]

/-- What is left of a text does not end in a character that is cut. -/
theorem getLast?_dropEndWhile {p : Char → Bool} {cs : List Char} {c : Char}
    (h : (dropEndWhile p cs).getLast? = some c) : p c = false := by
  induction cs with
  | nil => cases h
  | cons d cs ih =>
      unfold dropEndWhile at h
      split at h
      · split at h
        · cases h
        · next hd =>
          obtain rfl : d = c := Option.some.inj h
          exact Bool.eq_false_iff.mpr hd
      · next hne =>
        obtain ⟨e, rest, hrest⟩ := List.exists_cons_of_ne_nil hne
        rw [hrest, List.getLast?_cons_cons, ← hrest] at h
        exact ih h

end VcenterAccess.Text
