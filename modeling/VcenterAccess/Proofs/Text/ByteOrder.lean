import VcenterAccess.Table
import VcenterAccess.Text.Utf8

/-!
# Texts in the order of their bytes

Tables are walked by code point (`Table.ordered`), whereas a store that keeps
texts as UTF-8 walks them byte by byte.  The two orders are the same
(`ofText_lt_iff`), since UTF-8 keeps the order of characters: a longer encoding
starts with a greater byte, and encodings of one length are compared like the
digits of a number in base 64 (`encodeChar_append_lt`).

`Least` and `Greatest` pick a text out of a kind of texts, byte by byte.
-/

namespace VcenterAccess.Text

namespace Utf8

theorem val_lt (c : Char) : c.val.toNat < 0x110000 := by
  rcases c.valid with h | h <;> omega

theorem lastDigits_lt {v w : Nat} (h : v < w) :
    v / 4096 < w / 4096 ∨ (v / 4096 = w / 4096 ∧
      (v / 64 % 64 < w / 64 % 64 ∨ (v / 64 % 64 = w / 64 % 64 ∧ v % 64 < w % 64))) := by
  omega

/-- The smaller of two numbers is found by comparing four digits in base 64. -/
theorem digits_lt {v w : Nat} (h : v < w) :
    v / 262144 < w / 262144 ∨ (v / 262144 = w / 262144 ∧
      (v / 4096 % 64 < w / 4096 % 64 ∨ (v / 4096 % 64 = w / 4096 % 64 ∧
        (v / 64 % 64 < w / 64 % 64 ∨ (v / 64 % 64 = w / 64 % 64 ∧ v % 64 < w % 64))))) := by
  rcases lastDigits_lt h with hlt | ⟨heq, hrest⟩
  · have hfirst : v / 4096 / 64 < w / 4096 / 64 ∨
        v / 4096 / 64 = w / 4096 / 64 ∧ v / 4096 % 64 < w / 4096 % 64 := by omega
    rw [Nat.div_div_eq_div_mul, Nat.div_div_eq_div_mul] at hfirst
    exact hfirst.imp id fun ⟨he, hl⟩ => ⟨he, .inl hl⟩
  · exact .inr ⟨by omega, .inr ⟨by omega, hrest⟩⟩

/-- Of two characters the smaller one has the smaller bytes, whatever follows: the first byte
decides if their lengths differ, and the digits if not. -/
theorem encodeChar_append_lt {c d : Char} (h : c < d) (xs ys : List UInt8) :
    String.utf8EncodeChar c ++ xs < String.utf8EncodeChar d ++ ys := by
  have hlt : c.val.toNat < d.val.toNat := h
  have hmax : d.val.toNat < 0x110000 := val_lt d
  have hdigits := digits_lt hlt
  unfold String.utf8EncodeChar
  generalize c.val.toNat = v at *
  generalize d.val.toNat = w at *
  simp only
  repeat' split
  all_goals
    simp only [List.cons_append, List.nil_append, List.cons_lt_cons_iff, UInt8.lt_iff_toNat_lt,
      ← UInt8.toNat_inj, UInt8.toNat_ofNat', Nat.reducePow]
    simp (disch := omega) only [Nat.mod_eq_of_lt]
    omega

theorem encode_lt {cs ds : List Char} (h : cs < ds) : encode cs < encode ds := by
  induction cs generalizing ds with
  | nil =>
      cases ds with
      | nil => exact absurd h (List.not_lt_nil _)
      | cons d ds =>
          have hd : String.utf8EncodeChar d ≠ [] := String.utf8EncodeChar_ne_nil
          obtain ⟨b, bs, hb⟩ := List.exists_cons_of_ne_nil hd
          rw [encode, encode, List.flatMap_nil, List.flatMap_cons, hb, List.cons_append]
          exact List.nil_lt_cons b _
  | cons c cs ih =>
      cases ds with
      | nil => exact absurd h (List.not_lt_nil _)
      | cons d ds =>
          rw [encode, encode, List.flatMap_cons, List.flatMap_cons]
          cases List.cons_lt_cons_iff.mp h with
          | inl hlt => exact encodeChar_append_lt hlt _ _
          | inr hrest =>
              obtain ⟨heq, hlt⟩ := hrest
              subst heq
              exact List.append_left_lt (ih hlt)

/-- Texts are ordered like their bytes. -/
theorem ofText_lt_iff {a b : String} : ofText a < ofText b ↔ a < b := by
  constructor
  · intro h
    rcases Decidable.em (a < b) with hlt | hnlt
    · exact hlt
    · rcases Decidable.em (a = b) with heq | hne
      · exact absurd (heq ▸ h) (List.lt_irrefl _)
      · exact absurd h (List.lt_asymm (encode_lt (lt_of_not_lt_of_ne hnlt hne)))
  · exact fun h => encode_lt h

theorem ofText_le_iff {a b : String} : ofText a ≤ ofText b ↔ a ≤ b :=
  not_congr ofText_lt_iff

end Utf8

/-! ## The ends of a kind of texts -/

/-- `s` is the first of the texts that `P` holds of, byte by byte. -/
structure Least (P : String → Prop) (s : String) : Prop where
  holds : P s
  before : ∀ t, P t → Utf8.ofText s ≤ Utf8.ofText t

/-- `s` is the last of the texts that `P` holds of, byte by byte. -/
structure Greatest (P : String → Prop) (s : String) : Prop where
  holds : P s
  after : ∀ t, P t → Utf8.ofText t ≤ Utf8.ofText s

variable {P : String → Prop} {s t : String}

theorem Least.le (h : Least P s) (ht : P t) : s ≤ t := Utf8.ofText_le_iff.mp (h.before t ht)

theorem Greatest.le (h : Greatest P s) (ht : P t) : t ≤ s := Utf8.ofText_le_iff.mp (h.after t ht)

theorem least_of_le (hs : P s) (h : ∀ t, P t → s ≤ t) : Least P s :=
  ⟨hs, fun t ht => Utf8.ofText_le_iff.mpr (h t ht)⟩

theorem greatest_of_le (hs : P s) (h : ∀ t, P t → t ≤ s) : Greatest P s :=
  ⟨hs, fun t ht => Utf8.ofText_le_iff.mpr (h t ht)⟩

/-- There is at most one last text. -/
theorem Greatest.unique (hs : Greatest P s) (ht : Greatest P t) : s = t :=
  String.le_antisymm (ht.le hs.holds) (hs.le ht.holds)

end VcenterAccess.Text
