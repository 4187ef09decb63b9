import Mathlib.Data.List.TakeDrop
import VcenterAccess.DomainName.Ascii
import VcenterAccess.Proofs.Text.Endings

/-!
# Colons in domain names

A name with a colon at its end, or with a colon and then digits or small letters, is no
domain name (`DomainName.toAscii?_eq_none`).  Such characters are mapped to themselves and
are no marks, so the colon is in a label of the name.  A label keeps its colon when it is
decoded, since Punycode either keeps what is no digit of it or cannot be read, and again when
it is encoded.  But no name in ASCII has a colon.
-/

namespace VcenterAccess

open Text

namespace DomainName

namespace Punycode

theorem colon_mem_of_readNumber? {bias place weight n m : Nat} {cs rest : List Char}
    (h : readNumber? bias place weight n cs = some (m, rest)) (hmem : ':' ∈ cs) : ':' ∈ rest := by
  induction cs generalizing place weight n with
  | nil => cases h
  | cons c cs ih =>
      unfold readNumber? at h
      split at h
      · cases h
      · next d hd =>
        have hcs : ':' ∈ cs := by
          rcases List.mem_cons.mp hmem with rfl | hcs
          · cases hd
          · exact hcs
        split at h
        · cases h
          exact hcs
        · exact ih h hcs

/-- Numbers with a colon among them cannot be read, and a label with a colon keeps it, as
inserting a character loses none of the label. -/
theorem colon_of_insertAll? {bias codePoint place : Nat} {label cs out : List Char}
    (h : insertAll? bias codePoint place label cs = some out) :
    ':' ∉ cs ∧ (':' ∈ label → ':' ∈ out) := by
  induction bias, codePoint, place, label, cs using insertAll?.induct with
  | case1 bias codePoint place label cs hempty =>
      unfold insertAll? at h
      rw [if_pos hempty] at h
      cases h
      rw [List.isEmpty_iff.mp hempty]
      exact ⟨List.not_mem_nil, id⟩
  | case2 bias codePoint place label cs hne hread =>
      unfold insertAll? at h
      rw [if_neg hne] at h
      split at h
      · cases h
      · next hsome => cases hread.symm.trans hsome
  | case3 _ _ _ label cs hne number rest hread hlt places codePoint' place' hvalid ih =>
      unfold insertAll? at h
      rw [if_neg hne] at h
      split at h
      · cases h
      · next hsome =>
        cases hread.symm.trans hsome
        simp only at h
        rw [if_pos hvalid] at h
        obtain ⟨hrest, hout⟩ := ih h
        have hplace : place' ≤ label.length :=
          Nat.le_of_lt_succ (Nat.mod_lt _ (Nat.succ_pos label.length))
        exact ⟨fun hcs => hrest (colon_mem_of_readNumber? hread hcs),
          fun hlabel => hout ((List.mem_insertIdx hplace).mpr (.inr hlabel))⟩
  | case4 bias codePoint place label cs hne number rest hread hlt places codePoint' hinvalid =>
      unfold insertAll? at h
      rw [if_neg hne] at h
      split at h
      · cases h
      · next hsome =>
        cases hread.symm.trans hsome
        simp only at h
        rw [if_neg hinvalid] at h
        cases h

theorem colon_mem_splitAtLastHyphen {cs : List Char} (h : ':' ∈ cs) :
    ':' ∈ (splitAtLastHyphen cs).1 ∨ ':' ∈ (splitAtLastHyphen cs).2 := by
  unfold splitAtLastHyphen
  split
  · next tail dash c head hspan =>
    rw [List.span_eq_takeWhile_dropWhile] at hspan
    obtain ⟨htail, hhead⟩ := Prod.mk.inj hspan
    have hdash : dash ≠ ':' := by
      have hstart := List.head?_dropWhile_not (· ≠ '-') cs.reverse
      rw [hhead, List.head?_cons] at hstart
      rintro rfl
      cases hstart
    rw [← List.mem_reverse, ← List.takeWhile_append_dropWhile (p := (· ≠ '-')) (l := cs.reverse),
      htail, hhead, List.mem_append, List.mem_cons] at h
    rcases h with h | h | h
    · exact .inr (List.mem_reverse.mpr h)
    · exact absurd h.symm hdash
    · exact .inl (List.mem_reverse.mpr h)
  · exact .inr h

theorem colon_mem_decode? {cs out : List Char} (h : decode? cs = some out) (hcs : ':' ∈ cs) :
    ':' ∈ out := by
  unfold decode? at h
  simp only at h
  split at h
  · obtain ⟨hnumbers, hbasic⟩ := colon_of_insertAll? h
    exact hbasic ((colon_mem_splitAtLastHyphen hcs).resolve_right hnumbers)
  · cases h

theorem colon_mem_encode {label : List Char} (h : ':' ∈ label) : ':' ∈ encode label :=
  List.mem_append_left _ (List.mem_append_left _ (List.mem_filter.mpr ⟨h, by decide⟩))

end Punycode

theorem colon_mem_decodeLabel? {label out : List Char} (h : decodeLabel? label = some out)
    (hlabel : ':' ∈ label) : ':' ∈ out := by
  unfold decodeLabel? at h
  split at h
  · cases h
    exact hlabel
  · next code hcode =>
    obtain rfl := stripStart?_eq_some_iff.mp hcode
    have hmem : ':' ∈ code := (List.mem_append.mp hlabel).resolve_left (by decide)
    obtain ⟨decoded, hdecoded, h⟩ := Option.bind_eq_some_iff.mp h
    obtain ⟨-, -, h⟩ := Option.bind_eq_some_iff.mp h
    obtain ⟨-, -, h⟩ := Option.bind_eq_some_iff.mp h
    obtain ⟨-, -, h⟩ := Option.bind_eq_some_iff.mp h
    cases h
    exact Punycode.colon_mem_decode? hdecoded hmem

theorem colon_mem_encodeLabel {label : List Char} (h : ':' ∈ label) : ':' ∈ encodeLabel label := by
  unfold encodeLabel
  split
  · exact h
  · exact List.mem_append_right _ (Punycode.colon_mem_encode h)

theorem exists_of_mem_of_mapM {α β : Type} {f : α → Option β} {as : List α} {bs : List β} {a : α}
    (h : as.mapM f = some bs) (ha : a ∈ as) : ∃ b ∈ bs, f a = some b := by
  induction as generalizing bs with
  | nil => cases ha
  | cons a' as ih =>
      rw [List.mapM_cons] at h
      obtain ⟨b, hb, h⟩ := Option.bind_eq_some_iff.mp h
      obtain ⟨bs', hbs', h⟩ := Option.bind_eq_some_iff.mp h
      cases h
      rcases List.mem_cons.mp ha with rfl | ha
      · exact ⟨b, List.mem_cons_self .., hb⟩
      · obtain ⟨b', hb', hf⟩ := ih hbs' ha
        exact ⟨b', List.mem_cons_of_mem _ hb', hf⟩

theorem suffix_of_mapText? {cs mapped t : List Char} (ht : ∀ c ∈ t, mapChar? c = some [c])
    (h : mapText? (cs ++ t) = some mapped) : t <:+ mapped := by
  induction cs generalizing mapped with
  | nil =>
      have hsame : mapText? t = some t := by
        clear h
        induction t with
        | nil => rfl
        | cons c t ih =>
            rw [mapText?, ht c (List.mem_cons_self ..),
              ih fun d hd => ht d (List.mem_cons_of_mem _ hd)]
            rfl
      cases hsame.symm.trans h
      exact List.suffix_rfl
  | cons c cs ih =>
      obtain ⟨image, -, h⟩ := Option.bind_eq_some_iff.mp h
      obtain ⟨rest, hrest, h⟩ := Option.bind_eq_some_iff.mp h
      cases h
      exact (ih hrest).trans (List.suffix_append ..)

/-- A name with a colon in front of nothing but small characters of ASCII is no domain name. -/
theorem toAscii?_eq_none {cs t : List Char} (ht : ∀ c ∈ t, c.toNat < 0x80 ∧ c.toLower = c)
    (hcolon : ':' ∈ t) : toAscii? (cs ++ t) = none := by
  refine Option.eq_none_iff_forall_ne_some.mpr fun ascii h => ?_
  obtain ⟨mapped, hmapped, h⟩ := Option.bind_eq_some_iff.mp h
  obtain ⟨labels, hlabels, h⟩ := Option.bind_eq_some_iff.mp h
  obtain ⟨-, -, h⟩ := Option.bind_eq_some_iff.mp h
  obtain ⟨-, -, h⟩ := Option.bind_eq_some_iff.mp h
  obtain ⟨_, hallowed, -⟩ := Option.bind_eq_some_iff.mp h
  have hmap : ∀ c ∈ t, mapChar? c = some [c] := fun c hc => by
    rw [mapChar?, if_pos (ht c hc).1, (ht c hc).2]
  obtain ⟨front, rfl⟩ := suffix_of_mapText? hmap hmapped
  rw [compose_append fun c hc => Nat.lt_trans (ht c hc).1 (by decide)] at hlabels
  obtain ⟨p, hp, hmem⟩ : ∃ p ∈ pieces '.' (compose front ++ t), ':' ∈ p :=
    exists_mem_pieces (List.mem_append_right _ hcolon) (by decide)
  obtain ⟨label, hlabel, hdecode⟩ := exists_of_mem_of_mapM hlabels hp
  have hjoined : ':' ∈ joinPieces '.' (labels.map encodeLabel) :=
    mem_joinPieces_of_mem (List.mem_map_of_mem hlabel)
      (colon_mem_encodeLabel (colon_mem_decodeLabel? hdecode hmem))
  have hany : (joinPieces '.' (labels.map encodeLabel)).any isForbidden = true :=
    List.any_eq_true.mpr ⟨':', hjoined, by decide⟩
  simp [hany, guard] at hallowed

end DomainName

end VcenterAccess
