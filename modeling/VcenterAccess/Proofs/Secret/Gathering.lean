import VcenterAccess.Proofs.Secret.Keys
import VcenterAccess.Proofs.Table.Walk
import VcenterAccess.Secret.Payload

/-!
# Gathering the values of a payload

The legacy values of a payload are gathered by server and the indexed ones by
index.  Both work alike (`Grouping`): an item sets one field of one record, and
records start blank.  Different keys of a payload are read as different keys, so
no field is set twice, and a record holds for each field the value of its key, or
nothing if the key is absent (`Grouping.get?_gathered`).

`legacyTable_get?` and `indexTable_get?` say it of the two groupings.
-/

namespace VcenterAccess

open Text

namespace SecretPayload

/-! ## What a payload says -/

/-- The text of a key's value, empty if the key is absent. -/
def textAt (p : SecretPayload) (k : String) : String := ((p.get? k).map decodeValue).getD ""

/-- Some legacy key is about the server. -/
def HasLegacy (p : SecretPayload) (s : String) : Prop :=
  ∃ k f, p.contains k = true ∧ SecretKey.classify? k = some (.legacy s f)

/-- Some indexed key has the index. -/
def HasIndex (p : SecretPayload) (i : String) : Prop :=
  ∃ k f, p.contains k = true ∧ SecretKey.classify? k = some (.indexed i f)

/-- The values of a server's legacy keys. -/
def legacyAt (p : SecretPayload) (s : String) : Credential where
  user := p.textAt (s ++ ".username")
  password := p.textAt (s ++ ".password")
  sessionManagerUrl := p.textAt (s ++ ".vc-session-manager-url")
  sessionManagerToken := p.textAt (s ++ ".vc-session-manager-token")

/-- The values of an index's keys. -/
def indexedAt (p : SecretPayload) (i : String) : IndexedCredential where
  server := p.textAt ("server_" ++ i)
  username := p.textAt ("username_" ++ i)
  password := p.textAt ("password_" ++ i)

/-! ## Items -/

/-- The entries whose keys can be read. -/
def items (p : SecretPayload) : List Item := p.toList.filterMap fun e => (readItem e).toOption

theorem readItem_eq_ok_iff {e : String × List UInt8} {item : Item} :
    readItem e = .ok item ↔
      SecretKey.classify? e.1 = some item.1 ∧ item.2 = decodeValue e.2 := by
  obtain ⟨key, value⟩ := item
  unfold readItem
  cases h : SecretKey.classify? e.1 with
  | none => simp only [reduceCtorEq, false_and]
  | some k =>
      simp only [Except.ok.injEq, Prod.mk.injEq, Option.some.injEq]
      exact and_congr_right fun _ => eq_comm

theorem toOption_eq_some_iff {ε α : Type} {r : Except ε α} {a : α} :
    r.toOption = some a ↔ r = .ok a := by
  cases r with
  | error e => exact ⟨fun h => (nomatch h), fun h => (nomatch h)⟩
  | ok b => exact ⟨fun h => Option.some.inj h ▸ rfl, fun h => Except.ok.inj h ▸ rfl⟩

theorem mem_items {p : SecretPayload} {key : SecretKey} {value : String} :
    (key, value) ∈ p.items ↔ ∃ bytes, p.get? key.text = some bytes ∧
      SecretKey.classify? key.text = some key ∧ value = decodeValue bytes := by
  unfold items
  rw [List.mem_filterMap]
  constructor
  · rintro ⟨⟨k, bytes⟩, hmem, hread⟩
    obtain ⟨hkey, hvalue⟩ := readItem_eq_ok_iff.mp (toOption_eq_some_iff.mp hread)
    have htext : key.text = k := SecretKey.text_of_classify? hkey
    subst htext
    exact ⟨bytes, Table.get?_eq_some_iff.mpr hmem, hkey, hvalue⟩
  · rintro ⟨bytes, hget, hkey, hvalue⟩
    refine ⟨(key.text, bytes), Table.get?_eq_some_iff.mp hget, ?_⟩
    exact toOption_eq_some_iff.mpr (readItem_eq_ok_iff.mpr ⟨hkey, hvalue⟩)

/-- No two items have the same key. -/
theorem items_distinct (p : SecretPayload) : p.items.Pairwise fun a b => a.1 ≠ b.1 := by
  refine List.Pairwise.filterMap _ ?_ p.ordered
  intro e e' hlt item hitem item' hitem' heq
  obtain ⟨hkey, -⟩ := readItem_eq_ok_iff.mp (toOption_eq_some_iff.mp hitem)
  obtain ⟨hkey', -⟩ := readItem_eq_ok_iff.mp (toOption_eq_some_iff.mp hitem')
  rw [← heq] at hkey'
  exact String.ne_of_lt hlt (SecretKey.classify?_injective hkey hkey')

/-! ## Walking the items -/

section

variable {σ : Type} {step : σ → Item → σ}

/-- What every step keeps or its item brings about holds in the end if it held
before or an item brought it about. -/
theorem holds_foldl_iff {P : σ → Prop} {Q : Item → Prop}
    (hstep : ∀ st item, P (step st item) ↔ P st ∨ Q item) {l : List Item} {st : σ} :
    P (l.foldl step st) ↔ P st ∨ ∃ item ∈ l, Q item := by
  induction l generalizing st with
  | nil => simp only [List.foldl_nil, List.not_mem_nil, false_and, exists_false, or_false]
  | cons item l ih =>
      rw [List.foldl_cons, ih, hstep, or_assoc]
      simp only [List.mem_cons, or_and_right, exists_or, exists_eq_left]

variable {read : σ → String} {key : SecretKey}

theorem read_foldl_of_ne
    (hstep : ∀ st item, read (step st item) = if item.1 = key then item.2 else read st)
    {l : List Item} {st : σ} (h : ∀ item ∈ l, item.1 ≠ key) :
    read (l.foldl step st) = read st := by
  induction l generalizing st with
  | nil => rfl
  | cons item l ih =>
      rw [List.foldl_cons, ih fun i hi => h i (List.mem_cons_of_mem _ hi), hstep,
        if_neg (h item (List.mem_cons_self ..))]

/-- A value that is set once is read back, as no later item has its key. -/
theorem read_foldl_of_mem
    (hstep : ∀ st item, read (step st item) = if item.1 = key then item.2 else read st)
    {l : List Item} {st : σ} (hdist : l.Pairwise fun a b => a.1 ≠ b.1) {value : String}
    (h : (key, value) ∈ l) : read (l.foldl step st) = value := by
  induction l generalizing st with
  | nil => cases h
  | cons item l ih =>
      obtain ⟨hhead, hl⟩ := List.pairwise_cons.mp hdist
      rw [List.foldl_cons]
      cases List.mem_cons.mp h with
      | inl heq =>
          subst heq
          rw [read_foldl_of_ne hstep fun i hi => (hhead i hi).symm, hstep, if_pos rfl]
      | inr hmem => exact ih hl hmem

/-- What is read of a key in the end is the text of its value. -/
theorem read_items (read : σ → String)
    (hstep : ∀ st item, read (step st item) = if item.1 = key then item.2 else read st)
    (st : σ) (hst : read st = "") (p : SecretPayload)
    (hkey : SecretKey.classify? key.text = some key) :
    read (p.items.foldl step st) = p.textAt key.text := by
  cases hget : p.get? key.text with
  | none =>
      rw [read_foldl_of_ne hstep, hst, textAt, hget]
      · rfl
      · rintro ⟨k, value⟩ hmem rfl
        obtain ⟨bytes, hbytes, -⟩ := mem_items.mp hmem
        rw [hget] at hbytes
        cases hbytes
  | some bytes =>
      have hmem : (key, decodeValue bytes) ∈ p.items := mem_items.mpr ⟨bytes, hget, hkey, rfl⟩
      rw [read_foldl_of_mem hstep p.items_distinct hmem, textAt, hget]
      rfl

end

end SecretPayload

/-! ## Groupings -/

/-- A way to gather items: records of `γ` under names, with a field for each `φ`. -/
structure Grouping (γ φ : Type) [DecidableEq φ] where
  /-- The key of a field of a record. -/
  key : String → φ → SecretKey
  /-- A record in which nothing is set. -/
  blank : γ
  field : γ → φ → String
  set : φ → String → γ → γ
  gather : Table γ → SecretPayload.Item → Table γ
  key_inj : ∀ {n m f g}, key n f = key m g → n = m ∧ f = g
  /-- A record with one readable key has readable keys only. -/
  classify?_key : ∀ {n f}, SecretKey.classify? (key n f).text = some (key n f) →
    ∀ g, SecretKey.classify? (key n g).text = some (key n g)
  field_blank : ∀ f, field blank f = ""
  field_set : ∀ f g v c, field (set f v c) g = if g = f then v else field c g
  field_ext : ∀ {c d}, (∀ f, field c f = field d f) → c = d
  gather_key : ∀ t n f v, gather t (key n f, v) = t.modify n blank (set f v)
  gather_other : ∀ t item, (∀ n f, item.1 ≠ key n f) → gather t item = t

namespace Grouping

open SecretPayload

variable {γ φ : Type} [DecidableEq φ] (G : Grouping γ φ)

/-- The value of a field under a name, empty if there is no record. -/
def fieldAt (t : Table γ) (n : String) (f : φ) : String := G.field (t.getD n G.blank) f

theorem fieldAt_gather (t : Table γ) (item : Item) (n : String) (f : φ) :
    G.fieldAt (G.gather t item) n f = if item.1 = G.key n f then item.2 else G.fieldAt t n f := by
  obtain ⟨key, value⟩ := item
  by_cases hkey : ∃ m g, key = G.key m g
  · obtain ⟨m, g, rfl⟩ := hkey
    rw [G.gather_key]
    unfold fieldAt Table.getD
    rw [Table.get?_modify]
    by_cases hn : n = m
    · subst hn
      rw [if_pos rfl, Option.getD_some, G.field_set]
      by_cases hf : f = g
      · rw [if_pos hf, if_pos (by rw [hf])]
      · rw [if_neg hf, if_neg fun h => hf (G.key_inj h).2.symm]
        rfl
    · rw [if_neg hn, if_neg fun h => hn (G.key_inj h).1.symm]
  · have hother : ∀ m g, key ≠ G.key m g := fun m g h => hkey ⟨m, g, h⟩
    rw [G.gather_other t _ hother, if_neg (hother n f)]

theorem contains_gather (t : Table γ) (item : Item) (n : String) :
    (G.gather t item).contains n = true ↔ t.contains n = true ∨ ∃ f, item.1 = G.key n f := by
  obtain ⟨key, value⟩ := item
  by_cases hkey : ∃ m g, key = G.key m g
  · obtain ⟨m, g, rfl⟩ := hkey
    rw [G.gather_key]
    unfold Table.contains
    rw [Table.get?_modify]
    by_cases hn : n = m
    · subst hn
      rw [if_pos rfl]
      exact ⟨fun _ => .inr ⟨g, rfl⟩, fun _ => rfl⟩
    · rw [if_neg hn]
      refine ⟨.inl, fun h => h.resolve_right ?_⟩
      rintro ⟨f, hf⟩
      exact hn (G.key_inj hf).1.symm
  · have hother : ∀ m g, key ≠ G.key m g := fun m g h => hkey ⟨m, g, h⟩
    rw [G.gather_other t _ hother]
    exact ⟨.inl, fun h => h.resolve_right fun ⟨f, hf⟩ => hother n f hf⟩

/-- There is a record exactly under the names that some readable key has. -/
theorem contains_gathered (p : SecretPayload) (n : String) :
    (p.items.foldl G.gather ∅).contains n = true ↔
      ∃ k f, p.contains k = true ∧ SecretKey.classify? k = some (G.key n f) := by
  rw [holds_foldl_iff (P := fun t => t.contains n = true) (Q := fun item => ∃ f, item.1 = G.key n f)
    fun t item => G.contains_gather t item n]
  constructor
  · rintro (h | ⟨⟨key, value⟩, hmem, f, hf⟩)
    · cases h
    · obtain ⟨bytes, hget, hkey, -⟩ := mem_items.mp hmem
      exact ⟨key.text, f, Table.contains_iff.mpr ⟨bytes, hget⟩, hf ▸ hkey⟩
  · rintro ⟨k, f, hk, hkey⟩
    obtain ⟨bytes, hget⟩ := Table.contains_iff.mp hk
    have htext := SecretKey.text_of_classify? hkey
    subst htext
    exact .inr ⟨(G.key n f, decodeValue bytes), mem_items.mpr ⟨bytes, hget, hkey, rfl⟩, f, rfl⟩

/-- A record holds for each field the text of its key. -/
theorem get?_gathered {p : SecretPayload} {n : String} {c : γ} :
    (p.items.foldl G.gather ∅).get? n = some c ↔
      (∃ k f, p.contains k = true ∧ SecretKey.classify? k = some (G.key n f)) ∧
        ∀ f, G.field c f = p.textAt (G.key n f).text := by
  have hfields : (∃ k f, p.contains k = true ∧ SecretKey.classify? k = some (G.key n f)) →
      ∀ f, G.fieldAt (p.items.foldl G.gather ∅) n f = p.textAt (G.key n f).text := by
    rintro ⟨k, g, -, hkey⟩ f
    rw [← SecretKey.text_of_classify? hkey] at hkey
    exact read_items (fun t => G.fieldAt t n f) (fun t item => G.fieldAt_gather t item n f) ∅
      (G.field_blank f) p (G.classify?_key hkey f)
  constructor
  · intro hget
    have hnamed := (G.contains_gathered p n).mp (Table.contains_iff.mpr ⟨c, hget⟩)
    refine ⟨hnamed, fun f => ?_⟩
    have hf := hfields hnamed f
    rwa [fieldAt, Table.getD, hget, Option.getD_some] at hf
  · rintro ⟨hnamed, hc⟩
    obtain ⟨d, hget⟩ := Table.contains_iff.mp ((G.contains_gathered p n).mpr hnamed)
    rw [hget]
    refine congrArg some (G.field_ext fun f => ?_)
    have hf := hfields hnamed f
    rw [fieldAt, Table.getD, hget, Option.getD_some] at hf
    exact hf.trans (hc f).symm

end Grouping

/-! ## The two groupings -/

/-- The value of a field. -/
def Credential.field (c : Credential) : LegacyField → String
  | .username => c.user
  | .password => c.password
  | .sessionManagerUrl => c.sessionManagerUrl
  | .sessionManagerToken => c.sessionManagerToken

def IndexedCredential.field (c : IndexedCredential) : IndexedField → String
  | .username => c.username
  | .password => c.password
  | .server => c.server

theorem Credential.ext_field {c d : Credential} (h : ∀ f, c.field f = d.field f) : c = d := by
  obtain ⟨user, password, url, token⟩ := c
  obtain ⟨user', password', url', token'⟩ := d
  obtain rfl : user = user' := h .username
  obtain rfl : password = password' := h .password
  obtain rfl : url = url' := h .sessionManagerUrl
  obtain rfl : token = token' := h .sessionManagerToken
  rfl

theorem IndexedCredential.ext_field {c d : IndexedCredential} (h : ∀ f, c.field f = d.field f) :
    c = d := by
  obtain ⟨server, username, password⟩ := c
  obtain ⟨server', username', password'⟩ := d
  obtain rfl : server = server' := h .server
  obtain rfl : username = username' := h .username
  obtain rfl : password = password' := h .password
  rfl

namespace SecretPayload

/-- Legacy items, by server. -/
def byServer : Grouping Credential LegacyField where
  key := .legacy
  blank := {}
  field := Credential.field
  set := setLegacy
  gather := gatherLegacy
  key_inj h := by
    cases h
    exact ⟨rfl, rfl⟩
  classify?_key h _ := by
    obtain ⟨hs, -⟩ := SecretKey.classify?_eq_legacy_iff.mp h
    exact SecretKey.classify?_eq_legacy_iff.mpr ⟨hs, rfl⟩
  field_blank f := by cases f <;> rfl
  field_set f g v c := by cases f <;> cases g <;> rfl
  field_ext := Credential.ext_field
  gather_key _ _ _ _ := rfl
  gather_other t item h := by
    obtain ⟨key, value⟩ := item
    cases key with
    | legacy s f => exact absurd rfl (h s f)
    | indexed i f => rfl

/-- Indexed items, by index. -/
def byIndex : Grouping IndexedCredential IndexedField where
  key := .indexed
  blank := {}
  field := IndexedCredential.field
  set := setIndexed
  gather := gatherIndexed
  key_inj h := by
    cases h
    exact ⟨rfl, rfl⟩
  classify?_key h g := SecretKey.classify?_indexed_field h g
  field_blank f := by cases f <;> rfl
  field_set f g v c := by cases f <;> cases g <;> rfl
  field_ext := IndexedCredential.ext_field
  gather_key _ _ _ _ := rfl
  gather_other t item h := by
    obtain ⟨key, value⟩ := item
    cases key with
    | legacy s f => rfl
    | indexed i f => exact absurd rfl (h i f)

/-- The legacy credentials of a payload, by server. -/
def legacyTable (p : SecretPayload) : CredentialTable := p.items.foldl gatherLegacy ∅

/-- The indexed values of a payload, by index. -/
def indexTable (p : SecretPayload) : Table IndexedCredential := p.items.foldl gatherIndexed ∅

theorem legacyTable_get? {p : SecretPayload} {s : String} {c : Credential} :
    p.legacyTable.get? s = some c ↔ p.HasLegacy s ∧ c = p.legacyAt s := by
  refine (byServer.get?_gathered (p := p) (n := s) (c := c)).trans (and_congr_right fun _ => ?_)
  constructor
  · intro h
    refine Credential.ext_field fun f => (h f).trans ?_
    cases f <;> rfl
  · rintro rfl f
    cases f <;> rfl

theorem indexTable_get? {p : SecretPayload} {i : String} {c : IndexedCredential} :
    p.indexTable.get? i = some c ↔ p.HasIndex i ∧ c = p.indexedAt i := by
  refine (byIndex.get?_gathered (p := p) (n := i) (c := c)).trans (and_congr_right fun _ => ?_)
  constructor
  · intro h
    refine IndexedCredential.ext_field fun f => (h f).trans ?_
    cases f <;> rfl
  · rintro rfl f
    cases f <;> rfl

end SecretPayload

end VcenterAccess
