import Mathlib.Data.List.Induction
import VcenterAccess.Proofs.Text.Validity
import VcenterAccess.Text.Composition
import VcenterAccess.Text.Pieces

/-!
# What stands at the end of a text

Small characters at the end of a text have nothing to do with what stands before them.
Those of ASCII are decoded to themselves (`Utf8.suffix_of_decode?`), and those that do not
come apart are in no composition (`compose_append`).  Pieces of a list keep all that is no
separator (`exists_mem_pieces`).
-/

namespace VcenterAccess.Text

/-! ## Characters of ASCII at the end -/

theorem Utf8.encode_append (xs ys : List Char) :
    Utf8.encode (xs ++ ys) = Utf8.encode xs ++ Utf8.encode ys :=
  List.flatMap_append

theorem Utf8.encodeChar_of_ascii {c : Char} (h : c.toNat < 0x80) :
    String.utf8EncodeChar c = [UInt8.ofNat c.toNat] := by
  unfold String.utf8EncodeChar
  exact if_pos (Nat.le_of_lt_succ h)

/-- Characters of ASCII are read as themselves, whatever comes before them. -/
theorem Utf8.scan_append_ascii (bs : List UInt8) {t : List Char} (ht : ∀ c ∈ t, c.toNat < 0x80) :
    Utf8.scan none (bs ++ Utf8.encode t) = Utf8.scan none bs ++ t.map some := by
  induction t using List.reverseRecOn with
  | nil => simp [Utf8.encode]
  | append_singleton t c ih =>
      have hc : c.toNat < 0x80 := ht c (by simp)
      have hbyte : (UInt8.ofNat c.toNat).toNat = c.toNat := by
        rw [UInt8.toNat_ofNat', Nat.mod_eq_of_lt (by omega)]
      have hlow : UInt8.ofNat c.toNat < 0x80 := by
        rw [UInt8.lt_iff_toNat_lt, hbyte]
        exact hc
      have hencode : Utf8.encode (t ++ [c]) = Utf8.encode t ++ [UInt8.ofNat c.toNat] := by
        rw [Utf8.encode_append, Utf8.encode, Utf8.encode, List.flatMap_cons, List.flatMap_nil,
          List.append_nil, Utf8.encodeChar_of_ascii hc]
      rw [hencode, ← List.append_assoc, Utf8.scan_concat_ascii hlow _ _ (by simp),
        ih fun d hd => ht d (List.mem_append_left _ hd), hbyte, Char.ofNat_toNat, List.map_append,
        List.append_assoc]
      rfl

theorem Utf8.suffix_of_decode? {bs : List UInt8} {cs t : List Char}
    (ht : ∀ c ∈ t, c.toNat < 0x80) (h : Utf8.decode? (bs ++ Utf8.encode t) = some cs) :
    t <:+ cs := by
  have hscan := Utf8.collect_eq_some_iff.mp h
  rw [Utf8.scan_append_ascii bs ht] at hscan
  obtain ⟨front, back, rfl, -, hback⟩ := List.append_eq_map_iff.mp hscan
  rw [List.map_inj_right fun _ _ => Option.some.inj] at hback
  exact hback ▸ List.suffix_append front back

/-! ## Composition -/

theorem combiningClass_of_low {c : Char} (h : c.toNat < 0x300) : combiningClass c = 0 := if_pos h

theorem composePair?_of_low (letter : Char) {c : Char} (h : c.toNat < 0x300) :
    composePair? letter c = none :=
  if_pos h

theorem insertMark_of_low {c d : Char} (h : d.toNat < 0x300) (ds : List Char) :
    insertMark c (d :: ds) = c :: d :: ds := by
  rw [insertMark, combiningClass_of_low h]
  rfl

theorem composeFrom_of_low {letter c : Char} (h : c.toNat < 0x300) (apart cs : List Char) :
    composeFrom letter apart (c :: cs) = letter :: (apart ++ composeFrom c [] cs) := by
  rw [composeFrom]
  simp only [composePair?_of_low letter h, ite_self, combiningClass_of_low h, if_true]

theorem composeOrdered_of_low {c : Char} (h : c.toNat < 0x300) (cs : List Char) :
    composeOrdered (c :: cs) = composeFrom c [] cs :=
  if_pos (combiningClass_of_low h)

section

variable {t : List Char} (ht : ∀ c ∈ t, c.toNat < 0xC0)

include ht

theorem lt_of_mem_low {c : Char} (h : c ∈ t) : c.toNat < 0x300 :=
  Nat.lt_trans (ht c h) (by decide)

theorem decomposeStep_append (cs : List Char) :
    (cs ++ t).flatMap decomposeStep = cs.flatMap decomposeStep ++ t := by
  have hsame : t.flatMap decomposeStep = t := by
    clear cs
    induction t with
    | nil => rfl
    | cons c t ih =>
        rw [List.flatMap_cons, ih fun d hd => ht d (List.mem_cons_of_mem _ hd), decomposeStep,
          if_pos (ht c (List.mem_cons_self ..)), List.singleton_append]
  rw [List.flatMap_append, hsame]

theorem decompose_append (cs : List Char) : decompose (cs ++ t) = decompose cs ++ t := by
  rw [decompose, decomposeStep_append ht, decomposeStep_append ht, decomposeStep_append ht,
    decompose]

theorem insertMark_append (c : Char) (ds : List Char) :
    insertMark c (ds ++ t) = insertMark c ds ++ t := by
  induction ds with
  | nil =>
      cases t with
      | nil => rfl
      | cons d t =>
          exact insertMark_of_low (lt_of_mem_low ht (List.mem_cons_self ..)) t
  | cons d ds ih =>
      rw [List.cons_append, insertMark, insertMark, ih]
      split <;> rfl

theorem orderMarks_low : orderMarks t = t := by
  induction t with
  | nil => rfl
  | cons c t ih =>
      have hrest : ∀ d ∈ t, d.toNat < 0xC0 := fun d hd => ht d (List.mem_cons_of_mem _ hd)
      rw [orderMarks, ih hrest]
      exact insertMark_append hrest c []

theorem orderMarks_append (cs : List Char) : orderMarks (cs ++ t) = orderMarks cs ++ t := by
  induction cs with
  | nil => exact orderMarks_low ht
  | cons c cs ih => rw [List.cons_append, orderMarks, ih, insertMark_append ht, orderMarks]

theorem composeFrom_low (letter : Char) (apart : List Char) :
    composeFrom letter apart t = letter :: (apart ++ t) := by
  induction t generalizing letter apart with
  | nil => rw [composeFrom, List.append_nil]
  | cons c t ih =>
      rw [composeFrom_of_low (lt_of_mem_low ht (List.mem_cons_self ..)),
        ih fun d hd => ht d (List.mem_cons_of_mem _ hd), List.nil_append]

theorem composeFrom_append (letter : Char) (apart cs : List Char) :
    composeFrom letter apart (cs ++ t) = composeFrom letter apart cs ++ t := by
  induction cs generalizing letter apart with
  | nil => exact composeFrom_low ht letter apart
  | cons c cs ih =>
      simp only [List.cons_append, composeFrom, ih]
      split
      · rfl
      · split
        · simp only [List.cons_append, List.append_assoc]
        · rfl

theorem composeOrdered_append (cs : List Char) :
    composeOrdered (cs ++ t) = composeOrdered cs ++ t := by
  induction cs with
  | nil =>
      cases t with
      | nil => rfl
      | cons c t =>
          rw [List.nil_append, composeOrdered_of_low (lt_of_mem_low ht (List.mem_cons_self ..)),
            composeFrom_low fun d hd => ht d (List.mem_cons_of_mem c hd)]
          rfl
  | cons c cs ih =>
      rw [List.cons_append, composeOrdered, composeOrdered, ih, composeFrom_append ht]
      split <;> rfl

/-- Small characters stay as they are at the end: they do not come apart and are no marks. -/
theorem compose_append (cs : List Char) : compose (cs ++ t) = compose cs ++ t := by
  rw [compose, decompose_append ht, orderMarks_append ht, composeOrdered_append ht, compose]

end

/-! ## Pieces -/

section

variable {α : Type} {separator a : α}

/-- What stands after the last separator is determined. -/
theorem eq_of_append_cons_eq {as as' bs bs' : List α}
    (h : as ++ separator :: bs = as' ++ separator :: bs') (hb : separator ∉ bs)
    (hb' : separator ∉ bs') : bs = bs' := by
  rcases List.append_eq_append_iff.mp h with ⟨between, -, hmore⟩ | ⟨between, -, hmore⟩
  · cases between with
    | nil => exact (List.cons.inj hmore).2
    | cons b between =>
        obtain ⟨-, rfl⟩ := List.cons.inj hmore
        exact absurd (List.mem_append_right _ (List.mem_cons_self ..)) hb
  · cases between with
    | nil => exact (List.cons.inj hmore).2.symm
    | cons b between =>
        obtain ⟨-, rfl⟩ := List.cons.inj hmore
        exact absurd (List.mem_append_right _ (List.mem_cons_self ..)) hb'

theorem mem_joinPieces {ps : List (List α)} (h : a ∈ joinPieces separator ps) :
    a = separator ∨ ∃ p ∈ ps, a ∈ p := by
  induction ps using joinPieces.induct with
  | case1 => cases h
  | case2 p => exact .inr ⟨p, List.mem_singleton_self _, h⟩
  | case3 p ps hps ih =>
      rw [joinPieces] at h
      · rcases List.mem_append.mp h with h | h
        · exact .inr ⟨p, List.mem_cons_self .., h⟩
        · rcases List.mem_cons.mp h with h | h
          · exact .inl h
          · rcases ih h with h | ⟨q, hq, hmem⟩
            · exact .inl h
            · exact .inr ⟨q, List.mem_cons_of_mem _ hq, hmem⟩
      · exact hps

theorem mem_joinPieces_of_mem {p : List α} {ps : List (List α)} (hp : p ∈ ps) (ha : a ∈ p) :
    a ∈ joinPieces separator ps := by
  induction ps using joinPieces.induct with
  | case1 => cases hp
  | case2 q =>
      obtain rfl := List.mem_singleton.mp hp
      exact ha
  | case3 q ps hps ih =>
      rw [joinPieces]
      · rcases List.mem_cons.mp hp with rfl | hp
        · exact List.mem_append_left _ ha
        · exact List.mem_append_right _ (List.mem_cons_of_mem _ (ih hp))
      · exact hps

/-- Whatever is no separator is in a piece. -/
theorem exists_mem_pieces [DecidableEq α] {cs : List α} (h : a ∈ cs) (hne : a ≠ separator) :
    ∃ p ∈ pieces separator cs, a ∈ p := by
  rw [← joinPieces_pieces separator cs] at h
  exact (mem_joinPieces h).resolve_left hne

theorem pieces_append_cons [DecidableEq α] (cs ds : List α) :
    pieces separator (cs ++ separator :: ds) = pieces separator cs ++ pieces separator ds := by
  induction cs with
  | nil => exact if_pos rfl
  | cons c cs ih =>
      rw [List.cons_append, pieces, pieces, ih]
      cases hpieces : pieces separator cs with
      | nil => exact absurd hpieces (pieces_ne_nil separator cs)
      | cons p ps => split <;> rfl

theorem pieces_of_notMem [DecidableEq α] {cs : List α} (h : separator ∉ cs) :
    pieces separator cs = [cs] := by
  induction cs with
  | nil => rfl
  | cons c cs ih =>
      rw [List.mem_cons, not_or] at h
      rw [pieces, if_neg (Ne.symm h.1), ih h.2]

/-- The last piece ends in whatever stands at the end and has no separator. -/
theorem exists_pieces_append [DecidableEq α] (cs : List α) {ds : List α} (h : separator ∉ ds) :
    ∃ ps p, pieces separator (cs ++ ds) = ps ++ [p ++ ds] := by
  induction cs with
  | nil => exact ⟨[], [], pieces_of_notMem h⟩
  | cons c cs ih =>
      obtain ⟨ps, p, hpieces⟩ := ih
      rw [List.cons_append, pieces, hpieces]
      split
      · exact ⟨[] :: ps, p, rfl⟩
      · cases ps with
        | nil => exact ⟨[], c :: p, rfl⟩
        | cons q ps => exact ⟨(c :: q) :: ps, p, rfl⟩

end

end VcenterAccess.Text
