import Mathlib.Data.List.Forall2
import Mathlib.Data.List.Induction
import VcenterAccess.Proofs.Text.ByteOrder

/-!
# Walking a table

A table is walked by increasing key, so a walk that stops at its first fault
stops at the least faulty key (`Ordered.forM_eq_error`, `Ordered.mapM_eq_error`).
Texts that are all keys of one table have a least and a greatest one
(`Table.exists_least`, `Table.exists_greatest`).  A table that is filled from a
list without contradictions holds what the list does (`Table.get?_ofList`).

What a walk makes of the entries, one by one, is a list beside the list of entries
(`exists_forall₂`, `exists_of_forall₂_of_mem`).
-/

namespace VcenterAccess

open Text

variable {α β ε : Type}

/-! ## Cutting an ordered list at an entry -/

/-- An entry cuts an ordered list into the entries before and after it. -/
theorem Ordered.cut {l : List (String × α)} (h : Ordered l) {e : String × α} (he : e ∈ l) :
    ∃ before after, l = before ++ e :: after ∧
      (∀ b ∈ before, b.1 < e.1) ∧ ∀ a ∈ after, e.1 < a.1 := by
  obtain ⟨before, after, rfl⟩ := List.append_of_mem he
  obtain ⟨-, htail, hcross⟩ := List.pairwise_append.mp h
  refine ⟨before, after, rfl, fun b hb => ?_, fun a ha => ?_⟩
  · exact hcross b hb e (List.mem_cons_self ..)
  · exact (List.pairwise_cons.mp htail).1 a ha

/-- The first entry that `P` holds of. -/
theorem Ordered.exists_first {P : String × α → Prop} {l : List (String × α)} (h : Ordered l)
    (hex : ∃ e ∈ l, P e) : ∃ e ∈ l, P e ∧ ∀ e' ∈ l, P e' → e.1 ≤ e'.1 := by
  induction l with
  | nil =>
      obtain ⟨e, he, -⟩ := hex
      cases he
  | cons e₀ l ih =>
      obtain ⟨hhead, hl⟩ := List.pairwise_cons.mp h
      by_cases h₀ : P e₀
      · refine ⟨e₀, List.mem_cons_self .., h₀, fun e' he' _ => ?_⟩
        cases List.mem_cons.mp he' with
        | inl heq => exact heq ▸ String.le_refl _
        | inr hmem => exact String.lt_asymm (hhead e' hmem)
      · have hrest : ∃ e ∈ l, P e := by
          obtain ⟨e, he, hP⟩ := hex
          cases List.mem_cons.mp he with
          | inl heq => exact absurd (heq ▸ hP) h₀
          | inr hmem => exact ⟨e, hmem, hP⟩
        obtain ⟨e₁, he₁, hP₁, hle⟩ := ih hl hrest
        refine ⟨e₁, List.mem_cons_of_mem _ he₁, hP₁, fun e' he' hP' => ?_⟩
        cases List.mem_cons.mp he' with
        | inl heq => exact absurd (heq ▸ hP') h₀
        | inr hmem => exact hle e' hmem hP'

/-- The last entry that `P` holds of.  If that is the head, nothing after it is left to compare it
with. -/
theorem Ordered.exists_last {P : String × α → Prop} {l : List (String × α)} (h : Ordered l)
    (hex : ∃ e ∈ l, P e) : ∃ e ∈ l, P e ∧ ∀ e' ∈ l, P e' → e'.1 ≤ e.1 := by
  induction l with
  | nil =>
      obtain ⟨e, he, -⟩ := hex
      cases he
  | cons e₀ l ih =>
      obtain ⟨hhead, hl⟩ := List.pairwise_cons.mp h
      by_cases hrest : ∃ e ∈ l, P e
      · obtain ⟨e₁, he₁, hP₁, hle⟩ := ih hl hrest
        refine ⟨e₁, List.mem_cons_of_mem _ he₁, hP₁, fun e' he' hP' => ?_⟩
        cases List.mem_cons.mp he' with
        | inl heq => exact heq ▸ String.lt_asymm (hhead e₁ he₁)
        | inr hmem => exact hle e' hmem hP'
      · have honly : ∀ e ∈ e₀ :: l, P e → e = e₀ := by
          intro e he hP
          cases List.mem_cons.mp he with
          | inl heq => exact heq
          | inr hmem => exact absurd ⟨e, hmem, hP⟩ hrest
        obtain ⟨e, he, hP⟩ := hex
        refine ⟨e, he, hP, fun e' he' hP' => ?_⟩
        have heq : e' = e := (honly e' he' hP').trans (honly e he hP).symm
        exact heq ▸ String.le_refl _

/-- What differs from entry to entry still does after an insertion, if it differs from the new
entry. -/
theorem nodup_map_insertEntry {f : String × α → β} {k : String} {a : α} :
    ∀ {l : List (String × α)}, (l.map f).Nodup → (∀ e ∈ l, f e ≠ f (k, a)) →
      ((insertEntry k a l).map f).Nodup
  | [], _, _ => List.pairwise_singleton ..
  | (k', a') :: rest, hl, hne => by
      obtain ⟨hhead, hrest⟩ := List.nodup_cons.mp hl
      obtain ⟨hfirst, hne⟩ := List.forall_mem_cons.mp hne
      have hnew : f (k, a) ∉ rest.map f := fun hmem => by
        obtain ⟨e, he, heq⟩ := List.mem_map.mp hmem
        exact hne e he heq
      unfold insertEntry
      split
      · refine List.nodup_cons.mpr ⟨fun hmem => ?_, hl⟩
        rcases List.mem_cons.mp hmem with heq | hmem
        · exact hfirst heq.symm
        · exact hnew hmem
      · split
        · exact List.nodup_cons.mpr ⟨hnew, hrest⟩
        · refine List.nodup_cons.mpr ⟨fun hmem => ?_, nodup_map_insertEntry hrest hne⟩
          obtain ⟨e, he, heq⟩ := List.mem_map.mp hmem
          rcases mem_insertEntry he with rfl | he
          · exact hfirst heq.symm
          · exact hhead (List.mem_map.mpr ⟨e, he, heq⟩)

namespace Table

theorem nodup_keys (t : Table α) : t.keys.Nodup := by
  have hkeys : t.keys.Pairwise (· < ·) := List.pairwise_map.mpr t.ordered
  refine hkeys.imp ?_
  rintro k k' hlt rfl
  exact String.lt_irrefl k hlt

theorem nodup_toList (t : Table α) : t.toList.Nodup := by
  refine t.ordered.imp ?_
  rintro e e' hlt rfl
  exact String.lt_irrefl e.1 hlt

theorem contains_iff {t : Table α} {k : String} : t.contains k = true ↔ ∃ a, t.get? k = some a :=
  Option.isSome_iff_exists

theorem contains_iff_mem {t : Table α} {k : String} :
    t.contains k = true ↔ ∃ a, (k, a) ∈ t.toList := by
  rw [contains_iff]
  exact exists_congr fun _ => get?_eq_some_iff

theorem contains_of_mem {t : Table α} {e : String × α} (h : e ∈ t.toList) :
    t.contains e.1 = true :=
  contains_iff_mem.mpr ⟨e.2, h⟩

theorem isEmpty_eq_false_iff {t : Table α} : t.isEmpty = false ↔ ∃ k, t.contains k = true := by
  constructor
  · intro h
    cases hentries : t.entries with
    | nil =>
        rw [Table.isEmpty, hentries] at h
        cases h
    | cons e l =>
        refine ⟨e.1, contains_of_mem ?_⟩
        rw [Table.toList, hentries]
        exact List.mem_cons_self ..
  · rintro ⟨k, hk⟩
    obtain ⟨a, ha⟩ := contains_iff.mp hk
    refine Bool.eq_false_iff.mpr fun h => ?_
    rw [isEmpty_iff.mp h k] at ha
    cases ha

/-- Keys of a table have a least one. -/
theorem exists_least {P : String → Prop} (t : Table α) (ht : ∀ k, P k → t.contains k = true)
    (hex : ∃ k, P k) : ∃ k, Least P k := by
  obtain ⟨k, hk⟩ := hex
  obtain ⟨a, ha⟩ := contains_iff_mem.mp (ht k hk)
  obtain ⟨e, -, hP, hle⟩ := t.ordered.exists_first (P := fun e => P e.1) ⟨(k, a), ha, hk⟩
  refine ⟨e.1, least_of_le hP fun k' hk' => ?_⟩
  obtain ⟨a', ha'⟩ := contains_iff_mem.mp (ht k' hk')
  exact hle (k', a') ha' hk'

/-- Keys of a table have a greatest one. -/
theorem exists_greatest {P : String → Prop} (t : Table α) (ht : ∀ k, P k → t.contains k = true)
    (hex : ∃ k, P k) : ∃ k, Greatest P k := by
  obtain ⟨k, hk⟩ := hex
  obtain ⟨a, ha⟩ := contains_iff_mem.mp (ht k hk)
  obtain ⟨e, -, hP, hle⟩ := t.ordered.exists_last (P := fun e => P e.1) ⟨(k, a), ha, hk⟩
  refine ⟨e.1, greatest_of_le hP fun k' hk' => ?_⟩
  obtain ⟨a', ha'⟩ := contains_iff_mem.mp (ht k' hk')
  exact hle (k', a') ha' hk'

/-! ## Filling a table -/

theorem ofList_concat (l : List (String × α)) (e : String × α) :
    ofList (l ++ [e]) = (ofList l).insert e.1 e.2 :=
  List.foldl_append ..

/-- A list in which no key has two values is looked up like a table. -/
theorem get?_ofList {l : List (String × α)} {k : String} {a : α}
    (h : ∀ b c, (k, b) ∈ l → (k, c) ∈ l → b = c) : (ofList l).get? k = some a ↔ (k, a) ∈ l := by
  induction l using List.reverseRecOn with
  | nil => exact ⟨fun hget => (nomatch hget), fun hmem => (nomatch hmem)⟩
  | append_singleton l e ih =>
      have hl := ih fun b c hb hc => h b c (List.mem_append_left _ hb) (List.mem_append_left _ hc)
      have he : e ∈ l ++ [e] := List.mem_append_right _ (List.mem_singleton_self e)
      rw [ofList_concat, get?_insert]
      by_cases hk : k = e.1
      · subst hk
        rw [if_pos rfl]
        constructor
        · intro ha
          exact Option.some.inj ha ▸ he
        · exact fun ha => congrArg some (h _ _ he ha)
      · rw [if_neg hk, hl]
        refine ⟨List.mem_append_left _, fun hmem => (List.mem_append.mp hmem).resolve_right ?_⟩
        intro hsingle
        exact hk (List.mem_singleton.mp hsingle ▸ rfl)

/-- What holds of every entry holds of every look-up. -/
theorem forall_get?_iff {t : Table α} {P : String → α → Prop} :
    (∀ k a, t.get? k = some a → P k a) ↔ ∀ e ∈ t.toList, P e.1 e.2 := by
  simp only [get?_eq_some_iff, Prod.forall]

end Table

/-! ## Lists side by side -/

/-- Lists whose elements agree, one by one, are mapped to the same list. -/
theorem map_eq_map_of_forall₂ {γ : Type} {f : α → γ} {g : β → γ} {as : List α} {bs : List β}
    (h : List.Forall₂ (fun a b => f a = g b) as bs) : as.map f = bs.map g := by
  have heq : List.Forall₂ (· = ·) (as.map f) (bs.map g) :=
    List.forall₂_map_left_iff.mpr (List.forall₂_map_right_iff.mpr h)
  rwa [List.forall₂_eq_eq_eq] at heq

theorem exists_forall₂ {R : α → β → Prop} {as : List α} (h : ∀ a ∈ as, ∃ b, R a b) :
    ∃ bs, List.Forall₂ R as bs := by
  induction as with
  | nil => exact ⟨[], .nil⟩
  | cons a as ih =>
      obtain ⟨b, hb⟩ := h a (List.mem_cons_self ..)
      obtain ⟨bs, hbs⟩ := ih fun a' ha' => h a' (List.mem_cons_of_mem _ ha')
      exact ⟨b :: bs, .cons hb hbs⟩

theorem exists_of_forall₂_of_mem {R : α → β → Prop} {as : List α} {bs : List β} {a : α}
    (h : List.Forall₂ R as bs) (ha : a ∈ as) : ∃ b ∈ bs, R a b := by
  induction h with
  | nil => cases ha
  | cons hab _ ih =>
      cases List.mem_cons.mp ha with
      | inl heq => exact ⟨_, List.mem_cons_self .., heq ▸ hab⟩
      | inr hmem =>
          obtain ⟨b, hb, hr⟩ := ih hmem
          exact ⟨b, List.mem_cons_of_mem _ hb, hr⟩

/-- The elements of a list with one more at its end. -/
theorem getElem?_concat_iff {l : List α} {a b : α} {n : Nat} :
    (l ++ [b])[n]? = some a ↔ l[n]? = some a ∨ n = l.length ∧ a = b := by
  grind

/-! ## Walks that may stop -/

theorem forM_eq_ok {f : α → Except ε Unit} {l : List α} (h : ∀ a ∈ l, f a = .ok ()) :
    l.forM f = .ok () := by
  induction l with
  | nil => rfl
  | cons a l ih =>
      have hl := ih fun b hb => h b (List.mem_cons_of_mem _ hb)
      show (f a >>= fun _ => l.forM f) = .ok ()
      rw [h a (List.mem_cons_self ..)]
      exact hl

/-- A walk stops at the first element that fails. -/
theorem forM_eq_error {f : α → Except ε Unit} {a : α} {e : ε} (ha : f a = .error e)
    (after : List α) {before : List α} (h : ∀ b ∈ before, f b = .ok ()) :
    (before ++ a :: after).forM f = .error e := by
  induction before with
  | nil =>
      show (f a >>= fun _ => after.forM f) = .error e
      rw [ha]
      rfl
  | cons b before ih =>
      have hrest := ih fun c hc => h c (List.mem_cons_of_mem _ hc)
      show (f b >>= fun _ => (before ++ a :: after).forM f) = .error e
      rw [h b (List.mem_cons_self ..)]
      exact hrest

theorem mapM_eq_ok {f : α → Except ε β} {l : List α} (h : ∀ a ∈ l, ∃ b, f a = .ok b) :
    l.mapM f = .ok (l.filterMap fun a => (f a).toOption) := by
  induction l with
  | nil => rfl
  | cons a l ih =>
      obtain ⟨b, hb⟩ := h a (List.mem_cons_self ..)
      have hl := ih fun c hc => h c (List.mem_cons_of_mem _ hc)
      rw [List.mapM_cons, hb, hl, List.filterMap_cons, hb]
      rfl

/-- A walk that collects stops at the first element that fails, too. -/
theorem mapM_eq_error {f : α → Except ε β} {a : α} {e : ε} (ha : f a = .error e)
    (after : List α) {before : List α} (h : ∀ b ∈ before, ∃ c, f b = .ok c) :
    (before ++ a :: after).mapM f = .error e := by
  induction before with
  | nil =>
      rw [List.nil_append, List.mapM_cons, ha]
      rfl
  | cons b before ih =>
      obtain ⟨c, hc⟩ := h b (List.mem_cons_self ..)
      have hrest := ih fun d hd => h d (List.mem_cons_of_mem _ hd)
      rw [List.cons_append, List.mapM_cons, hc, hrest]
      rfl

variable {l : List (String × α)} {k : String} {a : α} {e : ε}

theorem Ordered.forM_eq_error (h : Ordered l) {f : String × α → Except ε Unit} (hk : (k, a) ∈ l)
    (hf : f (k, a) = .error e) (hbefore : ∀ b ∈ l, b.1 < k → f b = .ok ()) :
    l.forM f = .error e := by
  obtain ⟨before, after, rfl, hlt, -⟩ := h.cut hk
  exact VcenterAccess.forM_eq_error hf after fun b hb =>
    hbefore b (List.mem_append_left _ hb) (hlt b hb)

theorem Ordered.mapM_eq_error (h : Ordered l) {f : String × α → Except ε β} (hk : (k, a) ∈ l)
    (hf : f (k, a) = .error e) (hbefore : ∀ b ∈ l, b.1 < k → ∃ c, f b = .ok c) :
    l.mapM f = .error e := by
  obtain ⟨before, after, rfl, hlt, -⟩ := h.cut hk
  exact VcenterAccess.mapM_eq_error hf after fun b hb =>
    hbefore b (List.mem_append_left _ hb) (hlt b hb)

end VcenterAccess
