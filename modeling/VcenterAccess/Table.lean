/-!
# Ordered tables

A table is a finite map from texts to values.  Servers, labels, Secret keys and
user names are all keys of tables.  The entries of a table are kept in
increasing order of their keys, by code point, so that the order in which a
table is walked does not depend on the order in which it was filled.

The order is part of the type.  Two tables with the same look-ups are therefore
the same table (`Table.ext_get?`), and a statement about a table is a statement
about `get?`.  Every operation has its equation for `get?`: `get?_insert`,
`get?_erase`, `get?_modify` and `get?_map`.
-/

namespace VcenterAccess

/-! ## Texts in code point order -/

/-- The order of texts is total: what is neither below nor equal is above. -/
theorem lt_of_not_lt_of_ne {a b : String} (h : ¬ a < b) (hne : a ≠ b) : b < a := by
  rcases Decidable.em (b < a) with hlt | hnlt
  · exact hlt
  · exact absurd (String.le_antisymm (String.not_lt.mp hnlt) (String.not_lt.mp h)) hne

/-! ## Entry lists -/

variable {α β : Type}

/-- The keys of `l` increase strictly. -/
def Ordered (l : List (String × α)) : Prop := l.Pairwise fun a b => a.1 < b.1

/-- Look a key up in a list of entries. -/
def entryOf? (k : String) : List (String × α) → Option α
  | [] => none
  | (k', a) :: rest => if k = k' then some a else entryOf? k rest
termination_by structural l => l

/-- Put an entry at its place, replacing an entry of the same key. -/
def insertEntry (k : String) (a : α) : List (String × α) → List (String × α)
  | [] => [(k, a)]
  | (k', a') :: rest =>
      if k < k' then (k, a) :: (k', a') :: rest
      else if k = k' then (k, a) :: rest
      else (k', a') :: insertEntry k a rest
termination_by structural l => l

/-- Drop the entry of a key. -/
def eraseEntry (k : String) (l : List (String × α)) : List (String × α) :=
  l.filter fun e => !(e.1 == k)

theorem mem_insertEntry {k : String} {a : α} {e : String × α} :
    ∀ {l : List (String × α)}, e ∈ insertEntry k a l → e = (k, a) ∨ e ∈ l
  | [], h => by simpa [insertEntry] using h
  | (k', a') :: rest, h => by
      unfold insertEntry at h
      split at h
      · simpa using h
      · split at h
        · rcases List.mem_cons.mp h with h | h
          · exact .inl h
          · exact .inr (List.mem_cons_of_mem _ h)
        · rcases List.mem_cons.mp h with h | h
          · exact .inr (h ▸ List.mem_cons_self ..)
          · exact (mem_insertEntry h).imp id (List.mem_cons_of_mem _)

theorem ordered_insertEntry (k : String) (a : α) :
    ∀ {l : List (String × α)}, Ordered l → Ordered (insertEntry k a l)
  | [], _ => by simp [insertEntry, Ordered]
  | (k', a') :: rest, h => by
      have hrest : Ordered rest := (List.pairwise_cons.mp h).2
      have hhead := (List.pairwise_cons.mp h).1
      unfold insertEntry
      split
      · next hlt =>
          refine List.pairwise_cons.mpr ⟨fun e he => ?_, h⟩
          rcases List.mem_cons.mp he with he | he
          · exact he ▸ hlt
          · exact String.lt_trans hlt (hhead e he)
      · next hnlt =>
          split
          · next heq => exact List.pairwise_cons.mpr ⟨fun e he => heq ▸ hhead e he, hrest⟩
          · next hne =>
              refine List.pairwise_cons.mpr ⟨fun e he => ?_, ordered_insertEntry k a hrest⟩
              rcases mem_insertEntry he with he | he
              · exact he ▸ lt_of_not_lt_of_ne hnlt hne
              · exact hhead e he

theorem ordered_eraseEntry (k : String) {l : List (String × α)} (h : Ordered l) :
    Ordered (eraseEntry k l) :=
  List.Pairwise.filter _ h

theorem ordered_mapValues (f : α → β) {l : List (String × α)} (h : Ordered l) :
    Ordered (l.map fun e => (e.1, f e.2)) :=
  List.pairwise_map.mpr h

theorem entryOf?_insertEntry (k k' : String) (a : α) :
    ∀ l : List (String × α),
      entryOf? k' (insertEntry k a l) = if k' = k then some a else entryOf? k' l
  | [] => rfl
  | (k₀, a₀) :: rest => by
      have ih := entryOf?_insertEntry k k' a rest
      unfold insertEntry
      split
      · rfl
      · next hnlt =>
          split
          · next heq =>
              subst heq
              by_cases h : k' = k <;> simp [entryOf?, h]
          · next hne =>
              by_cases h : k' = k₀
              · subst h
                simp [entryOf?, Ne.symm hne]
              · simp [entryOf?, h, ih]

theorem entryOf?_eq_none {k : String} :
    ∀ {l : List (String × α)}, entryOf? k l = none ↔ ∀ e ∈ l, e.1 ≠ k
  | [] => by simp [entryOf?]
  | (k', a) :: rest => by
      by_cases h : k = k'
      · subst h
        simp [entryOf?]
      · simp [entryOf?, h, entryOf?_eq_none (l := rest), Ne.symm h]

theorem entryOf?_eraseEntry (k k' : String) :
    ∀ l : List (String × α),
      entryOf? k' (eraseEntry k l) = if k' = k then none else entryOf? k' l
  | [] => by simp [eraseEntry, entryOf?]
  | (k₀, a) :: rest => by
      have ih : entryOf? k' (rest.filter fun e => !(e.1 == k))
          = if k' = k then none else entryOf? k' rest := entryOf?_eraseEntry k k' rest
      by_cases h₀ : k₀ = k
      · subst h₀
        by_cases h : k' = k₀
        · subst h
          simpa [eraseEntry] using ih
        · simp [eraseEntry, entryOf?, h, ih]
      · by_cases h : k' = k₀
        · subst h
          simp [eraseEntry, entryOf?, h₀]
        · simp [eraseEntry, entryOf?, h₀, h, ih]

theorem entryOf?_map (f : α → β) (k : String) :
    ∀ l : List (String × α),
      entryOf? k (l.map fun e => (e.1, f e.2)) = (entryOf? k l).map f
  | [] => rfl
  | (k', a) :: rest => by
      have ih := entryOf?_map f k rest
      by_cases h : k = k' <;> simp [entryOf?, h, ih]

/-- In an ordered list a key is found exactly with its entry. -/
theorem entryOf?_eq_some {k : String} {a : α} :
    ∀ {l : List (String × α)}, Ordered l → (entryOf? k l = some a ↔ (k, a) ∈ l)
  | [], _ => by simp [entryOf?]
  | (k', a') :: rest, h => by
      have ih := entryOf?_eq_some (k := k) (a := a) (List.pairwise_cons.mp h).2
      by_cases hk : k = k'
      · subst hk
        have hnot : (k, a) ∉ rest := fun hm =>
          absurd ((List.pairwise_cons.mp h).1 _ hm) (String.lt_irrefl k)
        simp [entryOf?, hnot, eq_comm]
      · simp [entryOf?, hk, ih]

/-- Ordered lists with the same look-ups are equal. -/
theorem Ordered.ext : ∀ {l l' : List (String × α)}, Ordered l → Ordered l' →
    (∀ k, entryOf? k l = entryOf? k l') → l = l'
  | [], [], _, _, _ => rfl
  | [], (k, a) :: l', _, _, h => by simpa [entryOf?] using h k
  | (k, a) :: l, [], _, _, h => by simpa [entryOf?] using h k
  | (k, a) :: l, (k', a') :: l', hl, hl', h => by
      have hk : k = k' := by
        rcases Decidable.em (k < k') with hlt | hnlt
        · have hm := (entryOf?_eq_some hl').mp
            ((h k).symm.trans (by simp [entryOf?]) : entryOf? k ((k', a') :: l') = some a)
          rcases List.mem_cons.mp hm with he | he
          · exact (Prod.mk.inj he).1
          · exact absurd (String.lt_trans hlt ((List.pairwise_cons.mp hl').1 _ he))
              (String.lt_irrefl k)
        · rcases Decidable.em (k = k') with heq | hne
          · exact heq
          · have hlt := lt_of_not_lt_of_ne hnlt hne
            have hm := (entryOf?_eq_some hl).mp
              ((h k').trans (by simp [entryOf?]) : entryOf? k' ((k, a) :: l) = some a')
            rcases List.mem_cons.mp hm with he | he
            · exact (Prod.mk.inj he).1.symm
            · exact absurd (String.lt_trans hlt ((List.pairwise_cons.mp hl).1 _ he))
                (String.lt_irrefl k')
      subst hk
      have ha : a = a' := by simpa [entryOf?] using h k
      subst ha
      have htail : l = l' := by
        refine Ordered.ext (List.pairwise_cons.mp hl).2 (List.pairwise_cons.mp hl').2 fun j => ?_
        rcases Decidable.em (j = k) with hj | hj
        · subst hj
          have h₁ : entryOf? j l = none := entryOf?_eq_none.mpr fun e he heq =>
            String.lt_irrefl j (heq ▸ (List.pairwise_cons.mp hl).1 e he)
          have h₂ : entryOf? j l' = none := entryOf?_eq_none.mpr fun e he heq =>
            String.lt_irrefl j (heq ▸ (List.pairwise_cons.mp hl').1 e he)
          rw [h₁, h₂]
        · simpa [entryOf?, hj] using h j
      rw [htail]

/-! ## Tables -/

/-- A finite map from texts, walked in the order of its keys. -/
structure Table (α : Type) where
  /-- The entries, by increasing key. -/
  entries : List (String × α)
  /-- The keys increase strictly. -/
  ordered : Ordered entries

namespace Table

/-- The table without entries. -/
def empty : Table α := ⟨[], List.Pairwise.nil⟩

instance : EmptyCollection (Table α) := ⟨empty⟩

instance : Inhabited (Table α) := ⟨empty⟩

/-- Tables are compared by their entries. -/
instance [DecidableEq α] : DecidableEq (Table α) := fun t t' =>
  match decEq t.entries t'.entries with
  | isTrue h => isTrue (by cases t; cases t'; cases h; rfl)
  | isFalse h => isFalse fun he => h (he ▸ rfl)

/-- The value of a key. -/
def get? (t : Table α) (k : String) : Option α := entryOf? k t.entries

/-- The value of a key, or `d` if it has none. -/
def getD (t : Table α) (k : String) (d : α) : α := (t.get? k).getD d

/-- Whether a key has a value. -/
def contains (t : Table α) (k : String) : Bool := (t.get? k).isSome

/-- Give a key a value. -/
def insert (t : Table α) (k : String) (a : α) : Table α :=
  ⟨insertEntry k a t.entries, ordered_insertEntry k a t.ordered⟩

/-- Take a key and its value away. -/
def erase (t : Table α) (k : String) : Table α :=
  ⟨eraseEntry k t.entries, ordered_eraseEntry k t.ordered⟩

/-- Change the value of a key, which is `d` if the key has none yet. -/
def modify (t : Table α) (k : String) (d : α) (f : α → α) : Table α :=
  t.insert k (f (t.getD k d))

/-- Change every value. -/
def map (f : α → β) (t : Table α) : Table β :=
  ⟨t.entries.map fun e => (e.1, f e.2), ordered_mapValues f t.ordered⟩

/-- The table of a list of entries.  Of two entries with one key the later one counts. -/
def ofList (l : List (String × α)) : Table α := l.foldl (fun t e => t.insert e.1 e.2) empty

/-- The entries, by increasing key. -/
def toList (t : Table α) : List (String × α) := t.entries

/-- The keys, in increasing order. -/
def keys (t : Table α) : List String := t.entries.map Prod.fst

/-- The number of entries. -/
def size (t : Table α) : Nat := t.entries.length

/-- Whether there is no entry. -/
def isEmpty (t : Table α) : Bool := t.entries.isEmpty

@[simp] theorem get?_empty (k : String) : (empty : Table α).get? k = none := rfl

@[simp] theorem get?_insert (t : Table α) (k k' : String) (a : α) :
    (t.insert k a).get? k' = if k' = k then some a else t.get? k' :=
  entryOf?_insertEntry k k' a t.entries

@[simp] theorem get?_erase (t : Table α) (k k' : String) :
    (t.erase k).get? k' = if k' = k then none else t.get? k' :=
  entryOf?_eraseEntry k k' t.entries

@[simp] theorem get?_modify (t : Table α) (k k' : String) (d : α) (f : α → α) :
    (t.modify k d f).get? k' = if k' = k then some (f (t.getD k d)) else t.get? k' :=
  get?_insert t k k' _

@[simp] theorem get?_map (f : α → β) (t : Table α) (k : String) :
    (t.map f).get? k = (t.get? k).map f :=
  entryOf?_map f k t.entries

/-- A key has a value exactly if the two are an entry. -/
theorem get?_eq_some_iff {t : Table α} {k : String} {a : α} :
    t.get? k = some a ↔ (k, a) ∈ t.toList :=
  entryOf?_eq_some t.ordered

/-- Tables with the same look-ups are the same table. -/
theorem ext_get? {t t' : Table α} (h : ∀ k, t.get? k = t'.get? k) : t = t' := by
  cases t with
  | mk l hl =>
    cases t' with
    | mk l' hl' =>
      have : l = l' := Ordered.ext hl hl' h
      subst this
      rfl

/-- Only the empty table has no look-up. -/
theorem isEmpty_iff {t : Table α} : t.isEmpty = true ↔ ∀ k, t.get? k = none := by
  constructor
  · intro h k
    have : t.entries = [] := by simpa [isEmpty] using h
    simp [get?, this, entryOf?]
  · intro h
    have : t = empty := ext_get? fun k => by simp [h k]
    simp [this, empty, isEmpty]

end Table

end VcenterAccess
