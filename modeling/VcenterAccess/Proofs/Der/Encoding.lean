import Mathlib.Algebra.Group.Nat.Defs
import VcenterAccess.Der.Oid

/-!
# Encodings are read back

An element is read back from its encoding, whatever follows it (`readElement?_encode`), and an
element that was read is what its encoding stands for (`readElement?_encoded`).  So of two
encodings with the same tag neither continues the other (`encode_append_inj`).

Contents are bounded by `maxLength`, the greatest length that is read.
-/

namespace VcenterAccess.Der

/-! ## Numbers in bytes -/

theorem toNat_concat (bs : List UInt8) (b : UInt8) :
    toNat (bs ++ [b]) = toNat bs * 256 + b.toNat := by
  simp [toNat]

theorem toNat_cons_zero (bs : List UInt8) : toNat (0 :: bs) = toNat bs := by
  simp [toNat]

theorem toNat_ofNat (n : Nat) : toNat (ofNat n) = n := by
  induction n using ofNat.induct with
  | case1 => rw [ofNat, if_pos rfl]; rfl
  | case2 n hn ih =>
      rw [ofNat, if_neg hn, toNat_concat, ih, UInt8.toNat_ofNat']
      omega

theorem length_ofNat_le {m : Nat} : ∀ {n : Nat}, n < 256 ^ m → (ofNat n).length ≤ m := by
  induction m with
  | zero =>
      intro n hn
      obtain rfl : n = 0 := Nat.lt_one_iff.mp hn
      exact Nat.le_of_eq (by rw [ofNat, if_pos rfl, List.length_nil])
  | succ m ih =>
      intro n hn
      rw [ofNat]
      split
      · exact Nat.zero_le _
      · have hhigh : n / 256 < 256 ^ m := Nat.div_lt_of_lt_mul (Nat.pow_succ' ▸ hn)
        rw [List.length_append]
        exact Nat.succ_le_succ (ih hhigh)

theorem length_pos_ofNat {n : Nat} (hn : n ≠ 0) : 0 < (ofNat n).length := by
  rw [ofNat, if_neg hn, List.length_append]
  exact Nat.succ_pos _

/-! ## Lengths -/

theorem readLength?_encodeLength {n : Nat} (hn : n ≤ maxLength) (rest : List UInt8) :
    readLength? (encodeLength n ++ rest) = some (n, rest) := by
  by_cases hshort : n < 0x80
  · have hvalue : (UInt8.ofNat n).toNat = n := by
      rw [UInt8.toNat_ofNat']
      omega
    have hlow : UInt8.ofNat n < 0x80 := by
      rw [UInt8.lt_iff_toNat_lt, hvalue]
      exact hshort
    rw [encodeLength, if_pos hshort, List.singleton_append, readLength?, if_pos hlow, hvalue]
  · have hback : encodeLength n = UInt8.ofNat (0x80 + (ofNat n).length) :: ofNat n := by
      rw [encodeLength, if_neg hshort]
    have hcount : (ofNat n).length ≤ 4 := length_ofNat_le (by unfold maxLength at hn; omega)
    have hpos : 0 < (ofNat n).length := length_pos_ofNat (by omega)
    have hvalue : (UInt8.ofNat (0x80 + (ofNat n).length)).toNat = 0x80 + (ofNat n).length := by
      rw [UInt8.toNat_ofNat']
      omega
    have hhigh : ¬ UInt8.ofNat (0x80 + (ofNat n).length) < 0x80 := by
      rw [UInt8.lt_iff_toNat_lt, hvalue]
      exact Nat.not_lt.mpr (Nat.le_add_right ..)
    have hfew : ¬ ((ofNat n).length = 0 || 4 < (ofNat n).length ||
        (ofNat n ++ rest).length < (ofNat n).length) = true := by
      simp only [Bool.or_eq_true, decide_eq_true_eq, List.length_append]
      omega
    rw [hback, List.cons_append, readLength?, if_neg hhigh]
    simp only [hvalue, Nat.add_sub_cancel_left, List.take_left, List.drop_left, toNat_ofNat]
    rw [if_neg hfew, if_pos (by simp [hn, hback])]

/-- A length is read in one form only. -/
theorem readLength?_eq_some_iff {bs rest : List UInt8} {n : Nat} :
    readLength? bs = some (n, rest) ↔ n ≤ maxLength ∧ bs = encodeLength n ++ rest := by
  constructor
  · intro h
    cases bs with
    | nil => cases h
    | cons b bs =>
        rw [readLength?] at h
        split at h
        · next hlow =>
          cases h
          have hshort : b.toNat < 0x80 := UInt8.lt_iff_toNat_lt.mp hlow
          refine ⟨Nat.le_of_lt (Nat.lt_trans hshort (by decide)), ?_⟩
          rw [encodeLength, if_pos hshort, UInt8.ofNat_toNat, List.singleton_append]
        · simp only at h
          split at h
          · cases h
          · split at h
            · next hform =>
              obtain ⟨rfl, rfl⟩ := Prod.mk.inj (Option.some.inj h)
              simp only [Bool.and_eq_true, decide_eq_true_eq] at hform
              refine ⟨hform.1, ?_⟩
              rw [hform.2, List.cons_append, List.take_append_drop]
            · cases h
  · rintro ⟨hn, rfl⟩
    exact readLength?_encodeLength hn rest

/-! ## Elements -/

/-- An element is read back from its encoding, whatever follows it. -/
theorem readElement?_encode {tag : UInt8} {content : List UInt8} (htag : isTag tag = true)
    (hlength : content.length ≤ maxLength) (rest : List UInt8) :
    readElement? (encode tag content ++ rest) =
      some (⟨tag, content, encode tag content⟩, rest) := by
  have hend : (encode tag content ++ rest).length - ((content ++ rest).length - content.length) =
      (encode tag content).length := by
    rw [List.length_append, List.length_append, Nat.add_sub_cancel_left, Nat.add_sub_cancel]
  have hlong : ¬ (content ++ rest).length < content.length := by
    rw [List.length_append]
    omega
  have htag : ¬ (!isTag tag) = true := by simpa using htag
  have hcons : encode tag content ++ rest =
      tag :: (encodeLength content.length ++ (content ++ rest)) := by
    rw [encode, List.cons_append, List.append_assoc]
  rw [hcons, readElement?]
  simp only [if_neg htag, readLength?_encodeLength hlength, if_neg hlong, List.take_left,
    List.drop_left]
  rw [← hcons, hend, List.take_left]

/-- What is read is what an encoding stands for. -/
theorem readElement?_encoded {bs rest : List UInt8} {e : Element}
    (h : readElement? bs = some (e, rest)) : isTag e.tag = true ∧ e.content.length ≤ maxLength ∧
      e.encoded = encode e.tag e.content ∧ bs = e.encoded ++ rest := by
  cases bs with
  | nil => cases h
  | cons tag bs =>
      rw [readElement?] at h
      split at h
      · cases h
      · next htag =>
        split at h
        · cases h
        · next n behind hlength =>
          obtain ⟨hn, rfl⟩ := readLength?_eq_some_iff.mp hlength
          split at h
          · cases h
          · next hlong =>
            obtain ⟨rfl, rfl⟩ := Prod.mk.inj (Option.some.inj h)
            have hcontent : (behind.take n).length = n := List.length_take_of_le (by omega)
            have hwhole : tag :: (encodeLength n ++ behind) =
                encode tag (behind.take n) ++ behind.drop n := by
              rw [encode, hcontent, List.cons_append, List.append_assoc, List.take_append_drop]
            have hend : (tag :: (encodeLength n ++ behind)).length - (behind.length - n) =
                (encode tag (behind.take n)).length := by
              rw [hwhole, List.length_append, List.length_drop, Nat.add_sub_cancel]
            refine ⟨Bool.of_not_eq_false fun hfalse => htag (by rw [hfalse]; rfl),
              by rwa [hcontent], ?_, ?_⟩
            · simp only
              rw [hend, hwhole, List.take_left]
            · simp only
              rw [hend, hwhole, List.take_left]

/-- An element is read in one form only: its encoding. -/
theorem readElement?_eq_some_iff {bs rest : List UInt8} {e : Element} :
    readElement? bs = some (e, rest) ↔ isTag e.tag = true ∧ e.content.length ≤ maxLength ∧
      e.encoded = encode e.tag e.content ∧ bs = e.encoded ++ rest := by
  refine ⟨readElement?_encoded, ?_⟩
  rintro ⟨htag, hlength, hform, rfl⟩
  obtain ⟨tag, content, encoded⟩ := e
  obtain rfl : encoded = encode tag content := hform
  exact readElement?_encode htag hlength rest

/-- Of two encodings with one tag neither goes on after the other. -/
theorem encode_append_inj {tag : UInt8} (htag : isTag tag = true) {c d r s : List UInt8}
    (hc : c.length ≤ maxLength) (hd : d.length ≤ maxLength)
    (h : encode tag c ++ r = encode tag d ++ s) : c = d ∧ r = s := by
  have hsame := (readElement?_encode htag hc r).symm.trans (h ▸ readElement?_encode htag hd s)
  cases hsame
  exact ⟨rfl, rfl⟩

theorem encode_inj {tag : UInt8} (htag : isTag tag = true) {c d : List UInt8}
    (hc : c.length ≤ maxLength) (hd : d.length ≤ maxLength) (h : encode tag c = encode tag d) :
    c = d := by
  have happend : encode tag c ++ [] = encode tag d ++ [] := by rw [h]
  exact (encode_append_inj htag hc hd happend).1

theorem length_encode_le {content : List UInt8} (h : content.length ≤ maxLength) (tag : UInt8) :
    (encode tag content).length ≤ content.length + 6 := by
  have hlength : (encodeLength content.length).length ≤ 5 := by
    unfold encodeLength
    split
    · exact Nat.le_add_left ..
    · exact Nat.succ_le_succ (length_ofNat_le (by unfold maxLength at h; omega))
  rw [encode, List.length_cons, List.length_append]
  omega

/-! ## Readers -/

section

variable {α β : Type} {tag : UInt8} {c : List UInt8}

theorem bind_of_eq {x : Reader α} {f : α → Reader β} {bs rest : List UInt8} {a : α}
    (h : x bs = some (a, rest)) : (x >>= f) bs = f a rest := by
  change (x bs).bind _ = _
  rw [h]
  rfl

theorem exists_of_bind {x : Reader α} {f : α → Reader β} {bs : List UInt8}
    {r : β × List UInt8} (h : (x >>= f) bs = some r) :
    ∃ a rest, x bs = some (a, rest) ∧ f a rest = some r := by
  obtain ⟨⟨a, rest⟩, hx, hf⟩ := Option.bind_eq_some_iff.mp h
  exact ⟨a, rest, hx, hf⟩

theorem whole?_of_eq {reader : Reader α} {bs : List UInt8} {a : α}
    (h : reader bs = some (a, [])) : whole? reader bs = some a := by
  rw [whole?, h]

theorem eq_of_whole? {reader : Reader α} {bs : List UInt8} {a : α}
    (h : whole? reader bs = some a) : reader bs = some (a, []) := by
  unfold whole? at h
  split at h
  · next hreader =>
    cases h
    exact hreader
  · cases h

theorem element_encode (htag : isTag tag = true) (hc : c.length ≤ maxLength)
    (rest : List UInt8) : element (encode tag c ++ rest) = some (⟨tag, c, encode tag c⟩, rest) :=
  readElement?_encode htag hc rest

theorem content_encode (htag : isTag tag = true) (hc : c.length ≤ maxLength)
    (rest : List UInt8) : content tag (encode tag c ++ rest) = some (c, rest) := by
  rw [content, bind_of_eq (element_encode htag hc rest), if_pos rfl]
  rfl

theorem nested_encode (htag : isTag tag = true) (hc : c.length ≤ maxLength)
    {reader : Reader α} {a : α} (h : reader c = some (a, [])) (rest : List UInt8) :
    nested tag reader (encode tag c ++ rest) = some (a, rest) := by
  rw [nested, bind_of_eq (content_encode htag hc rest), whole?_of_eq h]
  rfl

theorem encodedAs_eq_some_iff {reader : Reader α} {bs encoded rest : List UInt8} {a : α} :
    encodedAs tag reader bs = some ((a, encoded), rest) ↔ ∃ c, isTag tag = true ∧
      c.length ≤ maxLength ∧ whole? reader c = some a ∧ encoded = encode tag c ∧
      bs = encoded ++ rest := by
  constructor
  · intro h
    obtain ⟨e, behind, he, hrest⟩ := exists_of_bind h
    obtain ⟨htag, hlength, hform, rfl⟩ := readElement?_eq_some_iff.mp he
    cases hwhole : if e.tag = tag then whole? reader e.content else none with
    | none =>
        rw [hwhole] at hrest
        cases hrest
    | some b =>
        rw [hwhole] at hrest
        cases hrest
        obtain ⟨rfl, hcontent⟩ := Option.ite_none_right_eq_some.mp hwhole
        exact ⟨e.content, htag, hlength, hcontent, hform, rfl⟩
  · rintro ⟨c, htag, hlength, hcontent, rfl, rfl⟩
    rw [encodedAs, bind_of_eq (element_encode htag hlength rest), if_pos rfl, hcontent]
    rfl

theorem bitString_encode {bits : List UInt8} (h : (0 :: bits).length ≤ maxLength)
    (rest : List UInt8) : bitString (encode 0x03 (0 :: bits) ++ rest) = some ((0, bits), rest) := by
  rw [bitString, bitStringAs, bind_of_eq (content_encode (by decide) h rest)]
  rfl

theorem oid_encode {o : Oid} (ho : Oid.ofContent? o.toContent = some o)
    (hlength : o.toContent.length ≤ maxLength) (rest : List UInt8) :
    oid (o.encode ++ rest) = some (o, rest) := by
  rw [oid, Oid.encode, bind_of_eq (content_encode (by decide) hlength rest), ho]
  rfl

theorem algorithm_encode {o : Oid} (ho : Oid.ofContent? o.toContent = some o)
    (htag : isTag tag = true) (hlength : (o.encode ++ encode tag c).length ≤ maxLength)
    (rest : List UInt8) : algorithm (encode 0x30 (o.encode ++ encode tag c) ++ rest) =
      some (⟨o, some (encode tag c)⟩, rest) := by
  have hparts : o.toContent.length ≤ maxLength ∧ c.length ≤ maxLength := by
    simp only [Oid.encode, encode, List.length_append, List.length_cons] at hlength
    omega
  rw [algorithm, inSequence]
  refine nested_encode (by decide) hlength ?_ rest
  have helement := element_encode htag hparts.2 []
  rw [List.append_nil] at helement
  rw [bind_of_eq (oid_encode ho hparts.1 _)]
  change (element >>= fun e => pure (⟨o, some e.encoded⟩ : Algorithm)) (encode tag c) = _
  rw [bind_of_eq helement]
  rfl

end

end VcenterAccess.Der
