import VcenterAccess.FileTree
import VcenterAccess.Proofs.Text.Decoding

/-!
# Which bytes are a text

Bytes are decoded without a replacement only if they are those of a text
(`decode?_eq_some_iff`).  The first byte of a character announces the others with
their bounds (`Announces`).  If they come, all of them encode the number that is
read off them, since the bounds keep out what has a shorter form and what is no
character (`encodeChar_two`, `encodeChar_three`, `encodeChar_four`).

So a file is read as the text whose bytes it holds (`FileTree.read_eq_ok_iff`), and
nothing else can be read (`FileTree.read_fails_iff`).
-/

namespace VcenterAccess

namespace Text.Utf8

/-! ## The bytes of a number -/

theorem toNat_ofNat_of_valid {v : Nat} (h : v.isValidChar) : (Char.ofNat v).val.toNat = v := by
  unfold Char.ofNat
  rw [dif_pos h]
  rfl

theorem ofNat_eq_of_toNat {b : UInt8} {n : Nat} (h : b.toNat = n) : UInt8.ofNat n = b :=
  h ▸ UInt8.ofNat_toNat

theorem encodeChar_one {b : UInt8} (h : b < 0x80) :
    String.utf8EncodeChar (Char.ofNat b.toNat) = [b] := by
  simp only [UInt8.lt_iff_toNat_lt, UInt8.reduceToNat] at h
  unfold String.utf8EncodeChar
  rw [toNat_ofNat_of_valid (.inl (by omega))]
  simp only
  rw [if_pos (by omega), UInt8.ofNat_toNat]

theorem encodeChar_two {b c : UInt8} {v : Nat} (hv : v = (b.toNat - 0xC0) * 64 + (c.toNat - 0x80))
    (hb : 0xC2 ≤ b ∧ b < 0xE0) (hc : 0x80 ≤ c ∧ c ≤ 0xBF) :
    String.utf8EncodeChar (Char.ofNat v) = [b, c] := by
  simp only [UInt8.le_iff_toNat_le, UInt8.lt_iff_toNat_lt, UInt8.reduceToNat] at hb hc
  unfold String.utf8EncodeChar
  rw [toNat_ofNat_of_valid (.inl (by omega))]
  simp only
  rw [if_neg (by omega), if_pos (by omega), ofNat_eq_of_toNat (b := b) (by omega),
    ofNat_eq_of_toNat (b := c) (by omega)]

theorem encodeChar_three {b c d : UInt8} {v : Nat}
    (hv : v = ((b.toNat - 0xE0) * 64 + (c.toNat - 0x80)) * 64 + (d.toNat - 0x80))
    (hb : 0xE0 ≤ b ∧ b < 0xF0) (hc : 0x80 ≤ c ∧ c ≤ 0xBF) (hd : 0x80 ≤ d ∧ d ≤ 0xBF)
    (hlo : b = 0xE0 → 0xA0 ≤ c) (hhi : b = 0xED → c ≤ 0x9F) :
    String.utf8EncodeChar (Char.ofNat v) = [b, c, d] := by
  simp only [UInt8.le_iff_toNat_le, UInt8.lt_iff_toNat_lt, ← UInt8.toNat_inj, UInt8.reduceToNat]
    at hb hc hd hlo hhi
  have hvalid : v.isValidChar := by
    unfold Nat.isValidChar
    omega
  unfold String.utf8EncodeChar
  rw [toNat_ofNat_of_valid hvalid]
  simp only
  rw [if_neg (by omega), if_neg (by omega), if_pos (by omega),
    ofNat_eq_of_toNat (b := b) (by omega), ofNat_eq_of_toNat (b := c) (by omega),
    ofNat_eq_of_toNat (b := d) (by omega)]

theorem encodeChar_four {b c d e : UInt8} {v : Nat}
    (hv : v = (((b.toNat - 0xF0) * 64 + (c.toNat - 0x80)) * 64 + (d.toNat - 0x80)) * 64 +
      (e.toNat - 0x80))
    (hb : 0xF0 ≤ b ∧ b < 0xF5) (hc : 0x80 ≤ c ∧ c ≤ 0xBF) (hd : 0x80 ≤ d ∧ d ≤ 0xBF)
    (he : 0x80 ≤ e ∧ e ≤ 0xBF) (hlo : b = 0xF0 → 0x90 ≤ c) (hhi : b = 0xF4 → c ≤ 0x8F) :
    String.utf8EncodeChar (Char.ofNat v) = [b, c, d, e] := by
  simp only [UInt8.le_iff_toNat_le, UInt8.lt_iff_toNat_lt, ← UInt8.toNat_inj, UInt8.reduceToNat]
    at hb hc hd he hlo hhi
  have hvalid : v.isValidChar := by
    unfold Nat.isValidChar
    omega
  unfold String.utf8EncodeChar
  rw [toNat_ofNat_of_valid hvalid]
  simp only
  rw [if_neg (by omega), if_neg (by omega), if_neg (by omega),
    ofNat_eq_of_toNat (b := b) (by omega), ofNat_eq_of_toNat (b := c) (by omega),
    ofNat_eq_of_toNat (b := d) (by omega), ofNat_eq_of_toNat (b := e) (by omega)]

/-! ## First bytes -/

/-- What the first byte of several announces. -/
inductive Announces (b : UInt8) : Pending → Prop where
  | two : 0xC2 ≤ b ∧ b < 0xE0 → Announces b ⟨b.toNat - 0xC0, 0, 0x80, 0xBF⟩
  | three {least greatest : UInt8} : 0xE0 ≤ b ∧ b < 0xF0 → 0x80 ≤ least ∧ greatest ≤ 0xBF →
      (b = 0xE0 → 0xA0 ≤ least) → (b = 0xED → greatest ≤ 0x9F) →
      Announces b ⟨b.toNat - 0xE0, 1, least, greatest⟩
  | four {least greatest : UInt8} : 0xF0 ≤ b ∧ b < 0xF5 → 0x80 ≤ least ∧ greatest ≤ 0xBF →
      (b = 0xF0 → 0x90 ≤ least) → (b = 0xF4 → greatest ≤ 0x8F) →
      Announces b ⟨b.toNat - 0xF0, 2, least, greatest⟩

/-- What a first byte is. -/
inductive Starts (b : UInt8) : Start → Prop where
  | single : b < 0x80 → Starts b .single
  | opens {p : Pending} : Announces b p → Starts b (.opens p)
  | invalid : Starts b .invalid

theorem starts_start (b : UInt8) : Starts b (start b) := by
  fun_cases start b with
  | case1 h => exact .single h
  | case2 => exact .invalid
  | case3 _ hlo hhi => exact .opens (.two ⟨UInt8.not_lt.mp hlo, hhi⟩)
  | case4 _ _ _ hb =>
      subst hb
      exact .opens (.three (by decide) (by decide) (by decide) (by decide))
  | case5 _ _ _ _ hb =>
      subst hb
      exact .opens (.three (by decide) (by decide) (by decide) (by decide))
  | case6 _ _ hlo hfirst hlast hhi =>
      exact .opens (.three ⟨UInt8.not_lt.mp hlo, hhi⟩ (by decide) (absurd · hfirst) (absurd · hlast))
  | case7 _ _ _ _ _ _ hb =>
      subst hb
      exact .opens (.four (by decide) (by decide) (by decide) (by decide))
  | case8 _ _ _ _ _ hlo hfirst hhi =>
      refine .opens (.four ⟨UInt8.not_lt.mp hlo, ?_⟩ (by decide) (absurd · hfirst) ?_)
      · exact UInt8.lt_trans hhi (by decide)
      · rintro rfl
        exact absurd hhi (by decide)
  | case9 _ _ _ _ _ _ _ _ hb =>
      subst hb
      exact .opens (.four (by decide) (by decide) (by decide) (by decide))
  | case10 => exact .invalid

/-! ## Decoding without a replacement -/

/-- Where nothing is invalid, what is expected comes. -/
theorem exists_next {p : Pending} {bs : List UInt8} {cs : List Char}
    (h : scan (some p) bs = cs.map some) :
    ∃ b rest, bs = b :: rest ∧ p.least ≤ b ∧ b ≤ p.greatest := by
  have hnone : none ∉ cs.map (some : Char → Option Char) := fun hmem => by
    obtain ⟨_, -, heq⟩ := List.mem_map.mp hmem
    cases heq
  cases bs with
  | nil =>
      rw [← h, scan] at hnone
      exact absurd (List.mem_singleton_self _) hnone
  | cons b rest =>
      refine ⟨b, rest, rfl, ?_⟩
      refine Decidable.byContradiction fun hout => ?_
      rw [← h, scan, if_neg hout] at hnone
      split at hnone <;> exact hnone (List.mem_cons_self ..)

theorem bounds_trans {least greatest b : UInt8} (hbounds : 0x80 ≤ least ∧ greatest ≤ 0xBF)
    (h : least ≤ b ∧ b ≤ greatest) : 0x80 ≤ b ∧ b ≤ 0xBF :=
  ⟨UInt8.le_trans hbounds.1 h.1, UInt8.le_trans h.2 hbounds.2⟩

/-- The bytes start with those of the first character, and the others are read on. -/
def Reads (bs : List UInt8) (cs : List Char) : Prop :=
  ∃ c cs' rest, cs = c :: cs' ∧ bs = String.utf8EncodeChar c ++ rest ∧
    scan none rest = cs'.map some

theorem reads_of_scan {c : Char} {bs rest : List UInt8} {cs : List Char}
    (h : some c :: scan none rest = cs.map some) (hbs : String.utf8EncodeChar c ++ rest = bs) :
    Reads bs cs := by
  obtain ⟨c', cs', rfl, hc, hrest⟩ := List.map_eq_cons_iff.mp h.symm
  obtain rfl := Option.some.inj hc
  exact ⟨c', cs', rest, rfl, hbs.symm, hrest.symm⟩

/-- Where nothing is invalid, the bytes of a character come first. -/
theorem reads_cons {b : UInt8} {bs : List UInt8} {cs : List Char}
    (h : scan none (b :: bs) = cs.map some) : Reads (b :: bs) cs := by
  have hstarts := starts_start b
  rw [scan, scanStart] at h
  generalize start b = first at h hstarts
  cases hstarts with
  | single hb =>
      refine reads_of_scan h ?_
      rw [encodeChar_one hb, List.singleton_append]
  | invalid =>
      obtain ⟨_, _, -, hnone, -⟩ := List.map_eq_cons_iff.mp h.symm
      cases hnone
  | opens hp =>
      simp only at h
      obtain ⟨c, bs, rfl, hc⟩ := exists_next h
      cases hp with
      | two hb =>
          rw [scan_last hc] at h
          refine reads_of_scan h ?_
          rw [encodeChar_two rfl hb hc]
          rfl
      | three hb hbounds hlo hhi =>
          rw [scan_next hc] at h
          obtain ⟨d, bs, rfl, hd⟩ := exists_next h
          rw [scan_last hd] at h
          refine reads_of_scan h ?_
          rw [encodeChar_three rfl hb (bounds_trans hbounds hc) hd
            (fun heq => UInt8.le_trans (hlo heq) hc.1) (fun heq => UInt8.le_trans hc.2 (hhi heq))]
          rfl
      | four hb hbounds hlo hhi =>
          rw [scan_next hc] at h
          obtain ⟨d, bs, rfl, hd⟩ := exists_next h
          rw [scan_next hd] at h
          obtain ⟨e, bs, rfl, he⟩ := exists_next h
          rw [scan_last he] at h
          refine reads_of_scan h ?_
          rw [encodeChar_four rfl hb (bounds_trans hbounds hc) hd he
            (fun heq => UInt8.le_trans (hlo heq) hc.1) (fun heq => UInt8.le_trans hc.2 (hhi heq))]
          rfl

theorem scan_eq_map_some_iff {bs : List UInt8} {cs : List Char} :
    scan none bs = cs.map some ↔ bs = encode cs := by
  refine ⟨fun h => ?_, fun h => h ▸ scan_encode cs⟩
  induction cs generalizing bs with
  | nil =>
      cases bs with
      | nil => rfl
      | cons b bs =>
          obtain ⟨_, _, _, hnil, -⟩ := reads_cons h
          cases hnil
  | cons c cs ih =>
      cases bs with
      | nil => cases h
      | cons b bs =>
          obtain ⟨c', cs', rest, heq, hbs, hrest⟩ := reads_cons h
          obtain ⟨rfl, rfl⟩ := List.cons.inj heq
          rw [hbs, ih hrest]
          rfl

/-- All values of a list are found if none is missing. -/
theorem collect_eq_some_iff {α : Type} {l : List (Option α)} {as : List α} :
    collect l = some as ↔ l = as.map some := by
  induction l generalizing as with
  | nil =>
      constructor
      · rintro ⟨⟩
        rfl
      · intro h
        rw [List.map_eq_nil_iff.mp h.symm]
        rfl
  | cons o l ih =>
      cases o with
      | none =>
          refine ⟨fun h => (nomatch h), fun h => ?_⟩
          obtain ⟨_, _, -, hnone, -⟩ := List.map_eq_cons_iff.mp h.symm
          cases hnone
      | some a =>
          rw [collect, Option.map_eq_some_iff, eq_comm (b := as.map some), List.map_eq_cons_iff]
          constructor
          · rintro ⟨as, has, rfl⟩
            exact ⟨a, as, rfl, rfl, (ih.mp has).symm⟩
          · rintro ⟨b, as, rfl, hb, has⟩
            exact ⟨as, ih.mpr has.symm, Option.some.inj hb ▸ rfl⟩

/-- Bytes are decoded, without a replacement, exactly if they are those of a text. -/
theorem decode?_eq_some_iff {bs : List UInt8} {cs : List Char} :
    decode? bs = some cs ↔ bs = encode cs :=
  collect_eq_some_iff.trans scan_eq_map_some_iff

/-- The bytes that are a text are its own. -/
theorem toText?_eq_some_iff {bs : List UInt8} {s : String} :
    toText? bs = some s ↔ bs = ofText s := by
  rw [toText?, Option.map_eq_some_iff, ofText]
  constructor
  · rintro ⟨cs, hcs, rfl⟩
    rw [String.toList_ofList]
    exact decode?_eq_some_iff.mp hcs
  · intro h
    exact ⟨s.toList, decode?_eq_some_iff.mpr h, String.ofList_toList⟩

end Text.Utf8

/-! ## Files -/

/-- A file is read if it holds the bytes of a text, and then as this text. -/
theorem FileTree.read_eq_ok_iff {tree : FileTree} {path s : String} :
    tree.read path = .ok s ↔ tree.find path = .ok (.file (Text.Utf8.ofText s)) := by
  unfold read
  cases tree.find path with
  | error e => exact ⟨fun h => (nomatch h), fun h => (nomatch h)⟩
  | ok entry =>
      cases entry with
      | directory => exact ⟨fun h => (nomatch h), fun h => (nomatch h)⟩
      | file bytes =>
          rw [Except.ok.injEq, Entry.file.injEq, ← Text.Utf8.toText?_eq_some_iff]
          dsimp only
          cases Text.Utf8.toText? bytes with
          | none => exact ⟨fun h => (nomatch h), fun h => (nomatch h)⟩
          | some text =>
              constructor
              · exact fun h => congrArg some (Except.ok.inj h)
              · exact fun h => congrArg Except.ok (Option.some.inj h)

/-- Anything else cannot be read. -/
theorem FileTree.read_fails_iff {tree : FileTree} {path : String} :
    (∃ cause, tree.read path = .error cause) ↔
      ∀ s, tree.find path ≠ .ok (.file (Text.Utf8.ofText s)) := by
  constructor
  · rintro ⟨cause, hcause⟩ s hs
    rw [read_eq_ok_iff.mpr hs] at hcause
    cases hcause
  · intro h
    cases hread : tree.read path with
    | error cause => exact ⟨cause, rfl⟩
    | ok s => exact absurd (read_eq_ok_iff.mp hread) (h s)

end VcenterAccess
