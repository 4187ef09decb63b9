import VcenterAccess.Proofs.Table.Walk

/-!
# Tables put together and taken apart

Two tables are put together by `Table.union`, and the entries of some keys are taken out
of a table by `Table.restrict`.  Both have their equation for `get?`.  Tables without a
common key can be put together in either order (`Table.Disjoint.union_comm`).
-/

namespace VcenterAccess.Table

variable {α : Type}

/-- The entries of both tables.  Where both have one, that of the first counts. -/
def union (t u : Table α) : Table α := t.toList.foldr (fun e v => v.insert e.1 e.2) u

/-- The entries whose keys are chosen. -/
def restrict (t : Table α) (choose : String → Bool) : Table α :=
  ⟨t.entries.filter fun e => choose e.1, List.Pairwise.filter _ t.ordered⟩

/-- A key is looked up in the first table, and then in the second one. -/
theorem get?_union (t u : Table α) (k : String) :
    (t.union u).get? k = (t.get? k).or (u.get? k) := by
  obtain ⟨l, hl⟩ := t
  change (l.foldr (fun e v => v.insert e.1 e.2) u).get? k = (entryOf? k l).or (u.get? k)
  clear hl
  induction l with
  | nil => rfl
  | cons e l ih =>
      rw [List.foldr_cons, get?_insert, ih, entryOf?]
      by_cases hk : k = e.1
      · rw [if_pos hk, if_pos hk, Option.some_or]
      · rw [if_neg hk, if_neg hk]

theorem get?_restrict (t : Table α) (choose : String → Bool) (k : String) :
    (t.restrict choose).get? k = if choose k = true then t.get? k else none := by
  refine Option.ext fun a => ?_
  have hmem : (t.restrict choose).get? k = some a ↔ (k, a) ∈ t.toList ∧ choose k = true :=
    get?_eq_some_iff.trans List.mem_filter
  rw [hmem, ← get?_eq_some_iff]
  by_cases hk : choose k = true
  · rw [if_pos hk]
    exact and_iff_left hk
  · rw [if_neg hk]
    exact ⟨fun h => absurd h.2 hk, nofun⟩

theorem get?_eq_none_iff {t : Table α} {k : String} : t.get? k = none ↔ t.contains k = false := by
  rw [contains, Option.isSome_eq_false_iff, Option.isNone_iff_eq_none]

theorem contains_union {t u : Table α} {k : String} :
    (t.union u).contains k = true ↔ t.contains k = true ∨ u.contains k = true := by
  rw [contains, get?_union, Option.isSome_or, Bool.or_eq_true]
  rfl

theorem contains_restrict {t : Table α} {choose : String → Bool} {k : String} :
    (t.restrict choose).contains k = true ↔ choose k = true ∧ t.contains k = true := by
  rw [contains, get?_restrict]
  by_cases hk : choose k = true
  · rw [if_pos hk]
    exact (and_iff_right hk).symm
  · rw [if_neg hk]
    exact ⟨nofun, fun h => absurd h.1 hk⟩

theorem get?_singleton {k l : String} {a b : α} :
    (ofList [(k, a)]).get? l = some b ↔ l = k ∧ b = a := by
  rw [get?_ofList fun c d hc hd => by
    rw [(Prod.mk.inj (List.mem_singleton.mp hc)).2, (Prod.mk.inj (List.mem_singleton.mp hd)).2],
    List.mem_singleton, Prod.mk.injEq]

/-! ## Tables without a common key -/

/-- No key is in both tables. -/
def Disjoint {β : Type} (t : Table α) (u : Table β) : Prop :=
  ∀ k, t.contains k = true → u.contains k = false

theorem disjoint_iff {β : Type} {t : Table α} {u : Table β} :
    t.Disjoint u ↔ ∀ e ∈ t.toList, u.contains e.1 = false := by
  constructor
  · exact fun h e he => h e.1 (contains_of_mem he)
  · intro h k hk
    obtain ⟨a, ha⟩ := contains_iff_mem.mp hk
    exact h (k, a) ha

instance {β : Type} (t : Table α) (u : Table β) : Decidable (t.Disjoint u) :=
  decidable_of_iff _ disjoint_iff.symm

variable {t u : Table α} {k : String}

theorem Disjoint.symm (h : t.Disjoint u) : u.Disjoint t := fun k hk =>
  Bool.eq_false_iff.mpr fun ht => Bool.eq_false_iff.mp (h k ht) hk

/-- Where the first table has no entry, that of the second counts. -/
theorem get?_union_of_not_contains (h : t.contains k = false) :
    (t.union u).get? k = u.get? k := by
  rw [get?_union, get?_eq_none_iff.mpr h, Option.none_or]

theorem get?_union_of_contains (h : t.contains k = true) : (t.union u).get? k = t.get? k := by
  obtain ⟨a, ha⟩ := contains_iff.mp h
  rw [get?_union, ha, Option.some_or]

theorem Disjoint.union_comm (h : t.Disjoint u) : t.union u = u.union t := by
  refine ext_get? fun k => ?_
  cases hk : t.contains k with
  | true => rw [get?_union_of_contains hk, get?_union_of_not_contains (h k hk)]
  | false => rw [get?_union_of_not_contains hk, get?_union, get?_eq_none_iff.mpr hk, Option.or_none]

end VcenterAccess.Table
