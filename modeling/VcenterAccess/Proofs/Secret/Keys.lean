import VcenterAccess.Secret.Key

/-!
# The grammar of Secret keys

A key is legacy if it is a server followed by a suffix, and indexed if it is not
legacy and is a head word followed by an index.  Server and field, index and
field are determined by the key: the suffixes end in different characters
(`LegacyField.last`) and the head words start with different ones
(`IndexedField.first`).  So it does not matter in which order they are tried
(`classifyAmong?_eq`), and different keys are read as different ones
(`classify?_injective`).  All this together is `readByGrammar`.

Which keys of an index are legacy does not depend on the head word
(`classify?_indexed_field`): no head word has a full stop, so a suffix that the
key ends in is one that the index ends in.  Hence a text is read as an index if it
ends in no suffix (`classify?_head_append`) and is part of a server otherwise
(`classify?_head_append_suffix`).
-/

namespace VcenterAccess

open Text

/-! ## Suffixes -/

namespace LegacyField

theorem mem_all (f : LegacyField) : f ∈ all := by cases f <;> decide

instance {P : LegacyField → Prop} [DecidablePred P] : Decidable (∀ f, P f) :=
  decidable_of_iff (∀ f ∈ all, P f) ⟨fun h f => h f f.mem_all, fun h f _ => h f⟩

/-- The character a suffix ends in. -/
def last : LegacyField → Char
  | username => 'e'
  | password => 'd'
  | sessionManagerUrl => 'l'
  | sessionManagerToken => 'n'

theorem last_injective {f g : LegacyField} (h : f.last = g.last) : f = g := by
  cases f <;> cases g <;> first | rfl | exact absurd h (by decide)

theorem getLast?_suffix (f : LegacyField) : f.suffix.toList.getLast? = some f.last := by
  cases f <;> decide

theorem suffix_eq_cons (f : LegacyField) : ∃ cs, f.suffix.toList = '.' :: cs := by
  cases f <;> exact ⟨_, rfl⟩

/-- A text ends in at most one suffix, in one way. -/
theorem append_suffix_inj {s t : String} {f g : LegacyField}
    (h : s ++ f.suffix = t ++ g.suffix) : s = t ∧ f = g := by
  have hlist : s.toList ++ f.suffix.toList = t.toList ++ g.suffix.toList := by
    rw [← String.toList_append, ← String.toList_append, h]
  have hlast : f.last = g.last := by
    have hget := congrArg List.getLast? hlist
    rw [List.getLast?_append, List.getLast?_append, getLast?_suffix, getLast?_suffix] at hget
    exact Option.some.inj hget
  have hfg := last_injective hlast
  subst hfg
  exact ⟨String.toList_inj.mp (List.append_cancel_right hlist), rfl⟩

end LegacyField

/-! ## Head words -/

namespace IndexedField

theorem mem_all (f : IndexedField) : f ∈ all := by cases f <;> decide

instance {P : IndexedField → Prop} [DecidablePred P] : Decidable (∀ f, P f) :=
  decidable_of_iff (∀ f ∈ all, P f) ⟨fun h f => h f f.mem_all, fun h f _ => h f⟩

/-- The character a head word starts with. -/
def first : IndexedField → Char
  | username => 'u'
  | password => 'p'
  | server => 's'

theorem first_injective {f g : IndexedField} (h : f.first = g.first) : f = g := by
  cases f <;> cases g <;> first | rfl | exact absurd h (by decide)

theorem head_eq_cons (f : IndexedField) : ∃ cs, f.head.toList = f.first :: cs := by
  cases f <;> exact ⟨_, rfl⟩

theorem not_mem_head (f : IndexedField) : '.' ∉ f.head.toList := by cases f <;> decide

/-- A text starts with at most one head word, in one way. -/
theorem head_append_inj {i j : String} {f g : IndexedField}
    (h : f.head ++ i = g.head ++ j) : i = j ∧ f = g := by
  have hlist : f.head.toList ++ i.toList = g.head.toList ++ j.toList := by
    rw [← String.toList_append, ← String.toList_append, h]
  have hfirst : f.first = g.first := by
    obtain ⟨cs, hf⟩ := f.head_eq_cons
    obtain ⟨ds, hg⟩ := g.head_eq_cons
    rw [hf, hg] at hlist
    exact (List.cons.inj hlist).1
  have hfg := first_injective hfirst
  subst hfg
  exact ⟨String.toList_inj.mp (List.append_cancel_left hlist), rfl⟩

/-- A suffix after a head word is a suffix of the index, as no suffix starts inside a head word. -/
theorem head_append_eq_iff {f : IndexedField} {g : LegacyField} {i s : String} :
    f.head ++ i = s ++ g.suffix ↔ ∃ t, s = f.head ++ t ∧ i = t ++ g.suffix := by
  constructor
  · intro h
    have hlist : f.head.toList ++ i.toList = s.toList ++ g.suffix.toList := by
      rw [← String.toList_append, ← String.toList_append, h]
    rcases List.append_eq_append_iff.mp hlist with ⟨t, hs, hi⟩ | ⟨t, hf, hg⟩
    · refine ⟨String.ofList t, String.toList_inj.mp ?_, String.toList_inj.mp ?_⟩
      · rw [String.toList_append, String.toList_ofList, hs]
      · rw [String.toList_append, String.toList_ofList, hi]
    · cases t with
      | nil =>
          refine ⟨"", String.toList_inj.mp ?_, String.toList_inj.mp ?_⟩
          · rw [String.append_empty, hf, List.append_nil]
          · rw [String.empty_append, hg, List.nil_append]
      | cons c t =>
          obtain ⟨cs, hdot⟩ := g.suffix_eq_cons
          rw [hdot] at hg
          have hc : c = '.' := ((List.cons.inj hg).1).symm
          refine absurd ?_ f.not_mem_head
          rw [hf, hc]
          exact List.mem_append_right _ (List.mem_cons_self ..)
  · rintro ⟨t, rfl, rfl⟩
    exact String.append_assoc.symm

end IndexedField

/-! ## Reading a key -/

namespace SecretKey

theorem nonEmpty?_eq_some_iff {cs : List Char} {s : String} :
    nonEmpty? cs = some s ↔ s ≠ "" ∧ cs = s.toList := by
  unfold nonEmpty?
  by_cases h : cs = []
  · subst h
    rw [if_pos rfl]
    refine ⟨fun hn => (nomatch hn), fun ⟨hs, he⟩ => absurd ?_ hs⟩
    exact String.toList_inj.mp (he.symm.trans String.toList_empty.symm)
  · rw [if_neg h, Option.some.injEq]
    constructor
    · rintro rfl
      refine ⟨fun he => h ?_, String.toList_ofList.symm⟩
      rw [← String.toList_ofList (l := cs), he, String.toList_empty]
    · rintro ⟨-, rfl⟩
      exact String.ofList_toList

/-- The step of `legacy?` for one suffix. -/
theorem stripSuffix_eq_some_iff {key : String} {f : LegacyField} {k : SecretKey} :
    ((stripEnd? f.suffix.toList key.toList).bind fun rest =>
        (nonEmpty? rest).map fun server => legacy server f) = some k ↔
      ∃ s, k = legacy s f ∧ s ≠ "" ∧ key = s ++ f.suffix := by
  simp only [Option.bind_eq_some_iff, Option.map_eq_some_iff, stripEnd?_eq_some_iff,
    nonEmpty?_eq_some_iff]
  constructor
  · rintro ⟨_, hkey, s, ⟨hs, rfl⟩, rfl⟩
    exact ⟨s, rfl, hs, String.toList_inj.mp (hkey.trans String.toList_append.symm)⟩
  · rintro ⟨s, rfl, hs, rfl⟩
    exact ⟨s.toList, String.toList_append, s, ⟨hs, rfl⟩, rfl⟩

/-- The step of `indexed?` for one head word. -/
theorem stripHead_eq_some_iff {key : String} {f : IndexedField} {k : SecretKey} :
    ((stripStart? f.head.toList key.toList).bind fun rest =>
        (nonEmpty? rest).map fun index => indexed index f) = some k ↔
      ∃ i, k = indexed i f ∧ i ≠ "" ∧ key = f.head ++ i := by
  simp only [Option.bind_eq_some_iff, Option.map_eq_some_iff, stripStart?_eq_some_iff,
    nonEmpty?_eq_some_iff]
  constructor
  · rintro ⟨_, hkey, i, ⟨hi, rfl⟩, rfl⟩
    exact ⟨i, rfl, hi, String.toList_inj.mp (hkey.trans String.toList_append.symm)⟩
  · rintro ⟨i, rfl, hi, rfl⟩
    exact ⟨i.toList, String.toList_append, i, ⟨hi, rfl⟩, rfl⟩

/-- A search whose hits all agree finds what any of them gives. -/
theorem findSome?_eq_some_of_agree {α β : Type} {f : α → Option β} {l : List α} {a : α} {b : β}
    (ha : a ∈ l) (hb : f a = some b) (hagree : ∀ c d, f c = some d → d = b) :
    l.findSome? f = some b := by
  cases h : l.findSome? f with
  | none =>
      rw [List.findSome?_eq_none_iff.mp h a ha] at hb
      cases hb
  | some d =>
      obtain ⟨c, -, hc⟩ := List.exists_of_findSome?_eq_some h
      rw [hagree c d hc]

/-- Read a key in the legacy way, with the suffixes of these fields tried in turn. -/
def legacyAmong? (fields : List LegacyField) (key : String) : Option SecretKey :=
  fields.findSome? fun field =>
    (stripEnd? field.suffix.toList key.toList).bind fun rest =>
      (nonEmpty? rest).map fun server => legacy server field

/-- Read a key in the indexed way, with the head words of these fields tried in turn. -/
def indexedAmong? (fields : List IndexedField) (key : String) : Option SecretKey :=
  fields.findSome? fun field =>
    (stripStart? field.head.toList key.toList).bind fun rest =>
      (nonEmpty? rest).map fun index => indexed index field

/-- What is found does not depend on the order, since a text ends in one suffix only. -/
theorem legacyAmong?_eq_some_iff {fields : List LegacyField} (hall : ∀ f, f ∈ fields)
    {key : String} {k : SecretKey} :
    legacyAmong? fields key = some k ↔ ∃ s f, k = legacy s f ∧ s ≠ "" ∧ key = s ++ f.suffix := by
  constructor
  · intro h
    obtain ⟨f, -, hf⟩ := List.exists_of_findSome?_eq_some h
    obtain ⟨s, hs⟩ := stripSuffix_eq_some_iff.mp hf
    exact ⟨s, f, hs⟩
  · rintro ⟨s, f, hk, hs, hkey⟩
    refine findSome?_eq_some_of_agree (hall f) (stripSuffix_eq_some_iff.mpr ⟨s, hk, hs, hkey⟩) ?_
    intro g d hd
    obtain ⟨t, hd, -, ht⟩ := stripSuffix_eq_some_iff.mp hd
    obtain ⟨hst, hfg⟩ := LegacyField.append_suffix_inj (hkey.symm.trans ht)
    rw [hd, hk, hst, hfg]

theorem indexedAmong?_eq_some_iff {fields : List IndexedField} (hall : ∀ f, f ∈ fields)
    {key : String} {k : SecretKey} :
    indexedAmong? fields key = some k ↔ ∃ i f, k = indexed i f ∧ i ≠ "" ∧ key = f.head ++ i := by
  constructor
  · intro h
    obtain ⟨f, -, hf⟩ := List.exists_of_findSome?_eq_some h
    obtain ⟨i, hi⟩ := stripHead_eq_some_iff.mp hf
    exact ⟨i, f, hi⟩
  · rintro ⟨i, f, hk, hi, hkey⟩
    refine findSome?_eq_some_of_agree (hall f) (stripHead_eq_some_iff.mpr ⟨i, hk, hi, hkey⟩) ?_
    intro g d hd
    obtain ⟨j, hd, -, hj⟩ := stripHead_eq_some_iff.mp hd
    obtain ⟨hij, hfg⟩ := IndexedField.head_append_inj (hkey.symm.trans hj)
    rw [hd, hk, hij, hfg]

theorem legacy?_eq_some_iff {key : String} {k : SecretKey} :
    legacy? key = some k ↔ ∃ s f, k = legacy s f ∧ s ≠ "" ∧ key = s ++ f.suffix :=
  legacyAmong?_eq_some_iff LegacyField.mem_all

theorem indexed?_eq_some_iff {key : String} {k : SecretKey} :
    indexed? key = some k ↔ ∃ i f, k = indexed i f ∧ i ≠ "" ∧ key = f.head ++ i :=
  indexedAmong?_eq_some_iff IndexedField.mem_all

/-- The key ends in a suffix, and a server stands before it. -/
def EndsLegacy (key : String) : Prop :=
  ∃ (s : String) (f : LegacyField), s ≠ "" ∧ key = s ++ f.suffix

/-- The key starts with a head word, and an index stands behind it. -/
def StartsIndexed (key : String) : Prop :=
  ∃ (i : String) (f : IndexedField), i ≠ "" ∧ key = f.head ++ i

theorem legacy?_eq_none_iff {key : String} : legacy? key = none ↔ ¬ EndsLegacy key := by
  rw [Option.eq_none_iff_forall_ne_some]
  constructor
  · rintro h ⟨s, f, hs, hkey⟩
    exact h _ (legacy?_eq_some_iff.mpr ⟨s, f, rfl, hs, hkey⟩)
  · intro h k hk
    obtain ⟨s, f, -, hs⟩ := legacy?_eq_some_iff.mp hk
    exact h ⟨s, f, hs⟩

theorem indexed?_eq_none_iff {key : String} : indexed? key = none ↔ ¬ StartsIndexed key := by
  rw [Option.eq_none_iff_forall_ne_some]
  constructor
  · rintro h ⟨i, f, hi, hkey⟩
    exact h _ (indexed?_eq_some_iff.mpr ⟨i, f, rfl, hi, hkey⟩)
  · intro h k hk
    obtain ⟨i, f, -, hi⟩ := indexed?_eq_some_iff.mp hk
    exact h ⟨i, f, hi⟩

theorem classify?_eq_legacy_iff {key s : String} {f : LegacyField} :
    classify? key = some (legacy s f) ↔ s ≠ "" ∧ key = s ++ f.suffix := by
  unfold classify?
  rw [Option.or_eq_some_iff, legacy?_eq_some_iff, indexed?_eq_some_iff]
  constructor
  · rintro (⟨t, g, hk, hs⟩ | ⟨-, i, g, hk, -⟩)
    · cases hk
      exact hs
    · cases hk
  · exact fun hs => .inl ⟨s, f, rfl, hs⟩

theorem classify?_eq_indexed_iff {key i : String} {f : IndexedField} :
    classify? key = some (indexed i f) ↔ ¬ EndsLegacy key ∧ i ≠ "" ∧ key = f.head ++ i := by
  unfold classify?
  rw [Option.or_eq_some_iff, legacy?_eq_some_iff, indexed?_eq_some_iff, legacy?_eq_none_iff]
  constructor
  · rintro (⟨t, g, hk, -⟩ | ⟨hn, j, g, hk, hi⟩)
    · cases hk
    · cases hk
      exact ⟨hn, hi⟩
  · exact fun ⟨hn, hi⟩ => .inr ⟨hn, i, f, rfl, hi⟩

theorem classify?_eq_none_iff {key : String} :
    classify? key = none ↔ ¬ EndsLegacy key ∧ ¬ StartsIndexed key := by
  unfold classify?
  rw [Option.or_eq_none_iff, legacy?_eq_none_iff, indexed?_eq_none_iff]

/-- Read a key, with the suffixes and the head words tried in these orders. -/
def classifyAmong? (suffixes : List LegacyField) (heads : List IndexedField) (key : String) :
    Option SecretKey :=
  (legacyAmong? suffixes key).or (indexedAmong? heads key)

theorem classifyAmong?_eq {suffixes : List LegacyField} {heads : List IndexedField}
    (hs : ∀ f, f ∈ suffixes) (hh : ∀ f, f ∈ heads) (key : String) :
    classifyAmong? suffixes heads key = classify? key := by
  have hlegacy : legacyAmong? suffixes key = legacy? key := by
    ext k
    rw [legacyAmong?_eq_some_iff hs, legacy?_eq_some_iff]
  have hindexed : indexedAmong? heads key = indexed? key := by
    ext k
    rw [indexedAmong?_eq_some_iff hh, indexed?_eq_some_iff]
  rw [classifyAmong?, classify?, hlegacy, hindexed]

/-- A key is the text of what it is read as. -/
theorem text_of_classify? {key : String} {k : SecretKey} (h : classify? key = some k) :
    k.text = key := by
  cases k with
  | legacy s f => exact (classify?_eq_legacy_iff.mp h).2.symm
  | indexed i f => exact (classify?_eq_indexed_iff.mp h).2.2.symm

/-- Different keys are read as different ones. -/
theorem classify?_injective {key key' : String} {k : SecretKey}
    (h : classify? key = some k) (h' : classify? key' = some k) : key = key' :=
  (text_of_classify? h).symm.trans (text_of_classify? h')

theorem head_append_ne_empty (f : IndexedField) (t : String) : f.head ++ t ≠ "" := by
  obtain ⟨cs, hf⟩ := f.head_eq_cons
  intro he
  have hempty := congrArg String.toList he
  rw [String.toList_append, hf] at hempty
  cases hempty

/-- The keys of one index are read alike. -/
theorem classify?_indexed_field {key i : String} {f : IndexedField}
    (h : classify? key = some (indexed i f)) (g : IndexedField) :
    classify? (g.head ++ i) = some (indexed i g) := by
  obtain ⟨hn, hi, rfl⟩ := classify?_eq_indexed_iff.mp h
  refine classify?_eq_indexed_iff.mpr ⟨?_, hi, rfl⟩
  rintro ⟨s, l, -, hkey⟩
  obtain ⟨t, -, ht⟩ := IndexedField.head_append_eq_iff.mp hkey
  exact hn ⟨f.head ++ t, l, head_append_ne_empty f t,
    IndexedField.head_append_eq_iff.mpr ⟨t, rfl, ht⟩⟩

/-- The index ends in the suffix of a legacy field. -/
def EndsInSuffix (i : String) : Prop := ∃ (t : String) (g : LegacyField), i = t ++ g.suffix

theorem endsInSuffix_iff {i : String} :
    EndsInSuffix i ↔ ∃ g ∈ LegacyField.all, g.suffix.toList <:+ i.toList := by
  constructor
  · rintro ⟨t, g, rfl⟩
    exact ⟨g, g.mem_all, t.toList, String.toList_append.symm⟩
  · rintro ⟨g, -, cs, hcs⟩
    refine ⟨String.ofList cs, g, String.toList_inj.mp ?_⟩
    rw [String.toList_append, String.toList_ofList, hcs]

instance (i : String) : Decidable (EndsInSuffix i) := decidable_of_iff _ endsInSuffix_iff.symm

/-- A text that ends in no suffix is read as an index, behind every head word. -/
theorem classify?_head_append {i : String} (hi : i ≠ "") (h : ¬ EndsInSuffix i)
    (f : IndexedField) : classify? (f.head ++ i) = some (indexed i f) := by
  refine classify?_eq_indexed_iff.mpr ⟨?_, hi, rfl⟩
  rintro ⟨s, g, -, hkey⟩
  obtain ⟨t, -, ht⟩ := IndexedField.head_append_eq_iff.mp hkey
  exact h ⟨t, g, ht⟩

/-- A text that ends in a suffix is read as part of a server, behind every head word. -/
theorem classify?_head_append_suffix (f : IndexedField) (t : String) (g : LegacyField) :
    classify? (f.head ++ (t ++ g.suffix)) = some (legacy (f.head ++ t) g) :=
  classify?_eq_legacy_iff.mpr ⟨head_append_ne_empty f t, String.append_assoc.symm⟩

/-! ## The grammar -/

/-- How a key is read, as a grammar. -/
structure ReadByGrammar (key : String) : Prop where
  /-- It is legacy if it is a server followed by a suffix. -/
  legacy_iff : ∀ s f, classify? key = some (legacy s f) ↔ s ≠ "" ∧ key = s ++ f.suffix
  /-- It is indexed if it is not legacy and is a head word followed by an index. -/
  indexed_iff : ∀ i f, classify? key = some (indexed i f) ↔
    ¬ EndsLegacy key ∧ i ≠ "" ∧ key = f.head ++ i
  /-- It is unknown if it is neither. -/
  unknown_iff : classify? key = none ↔ ¬ EndsLegacy key ∧ ¬ StartsIndexed key
  /-- It is cut at a suffix in one way at most, the empty server counted. -/
  server_unique : ∀ s t (f g : LegacyField), key = s ++ f.suffix → key = t ++ g.suffix →
    s = t ∧ f = g
  /-- It is cut at a head word in one way at most, the empty index counted. -/
  index_unique : ∀ i j (f g : IndexedField), key = f.head ++ i → key = g.head ++ j →
    i = j ∧ f = g
  /-- The order in which suffixes and head words are tried does not matter, as
  long as all of them are. -/
  order : ∀ suffixes heads, (∀ f, f ∈ suffixes) → (∀ f, f ∈ heads) →
    classifyAmong? suffixes heads key = classify? key
  /-- No other key is read as the same field of the same server or index. -/
  unshared : ∀ key', key' ≠ key → ∀ k, classify? key = some k → classify? key' ≠ some k

/-- Every key is read by the grammar. -/
theorem readByGrammar (key : String) : ReadByGrammar key where
  legacy_iff _ _ := classify?_eq_legacy_iff
  indexed_iff _ _ := classify?_eq_indexed_iff
  unknown_iff := classify?_eq_none_iff
  server_unique _ _ _ _ hs ht := LegacyField.append_suffix_inj (hs.symm.trans ht)
  index_unique _ _ _ _ hi hj := IndexedField.head_append_inj (hi.symm.trans hj)
  order _ _ hs hh := classifyAmong?_eq hs hh key
  unshared _ hne _ h h' := hne (classify?_injective h' h)

end SecretKey

end VcenterAccess
