import VcenterAccess.Proofs.Secret.Parsing
import VcenterAccess.Proofs.Table.Parts

/-!
# Servers do not influence each other

What a payload gives a server depends on the legacy keys of the server and on the indices
for it (`AgreeOn`, `AgreeOn.holds_iff`).  So payloads that have no key and no server in
common are read together as they are read apart (`Apart`), and what a payload says about
one of its servers is read alone as the entry of that server (`part`).

A payload that can be read has all three keys of each of its indices.  That is why payloads
without a common key have no common index either.
-/

namespace VcenterAccess

open Text

namespace SecretPayload

variable {p q : SecretPayload} {s : String}

/-! ## What is said about a server -/

/-- Two payloads say the same about the server `s`. -/
structure AgreeOn (p q : SecretPayload) (s : String) : Prop where
  legacy : ∀ f : LegacyField, p.get? (s ++ f.suffix) = q.get? (s ++ f.suffix)
  indices : ∀ i, p.IndexFor s i ↔ q.IndexFor s i
  logins : ∀ i, p.IndexFor s i → ∀ f : IndexedField, p.get? (f.head ++ i) = q.get? (f.head ++ i)

theorem textAt_congr {k : String} (h : p.get? k = q.get? k) : p.textAt k = q.textAt k := by
  rw [textAt, textAt, h]

theorem contains_congr {k : String} (h : p.get? k = q.get? k) : p.contains k = q.contains k := by
  rw [Table.contains, Table.contains, h]

theorem hasLegacy_iff :
    p.HasLegacy s ↔ s ≠ "" ∧ ∃ f : LegacyField, p.contains (s ++ f.suffix) = true := by
  constructor
  · rintro ⟨k, f, hk, hkey⟩
    obtain ⟨hs, rfl⟩ := SecretKey.classify?_eq_legacy_iff.mp hkey
    exact ⟨hs, f, hk⟩
  · rintro ⟨hs, f, hk⟩
    exact ⟨_, f, hk, SecretKey.classify?_eq_legacy_iff.mpr ⟨hs, rfl⟩⟩

namespace AgreeOn

theorem symm (h : p.AgreeOn q s) : q.AgreeOn p s where
  legacy f := (h.legacy f).symm
  indices i := (h.indices i).symm
  logins i hi f := (h.logins i ((h.indices i).mpr hi) f).symm

theorem hasLegacy (h : p.AgreeOn q s) (hp : p.HasLegacy s) : q.HasLegacy s := by
  obtain ⟨hs, f, hf⟩ := hasLegacy_iff.mp hp
  exact hasLegacy_iff.mpr ⟨hs, f, contains_congr (h.legacy f) ▸ hf⟩

theorem names (h : p.AgreeOn q s) (hp : p.Names s) : q.Names s :=
  hp.imp h.hasLegacy fun ⟨i, hi⟩ => ⟨i, (h.indices i).mp hi⟩

theorem holds (h : p.AgreeOn q s) {c : Credential} (hc : p.Holds s c) : q.Holds s c where
  named := h.names hc.named
  url := hc.url.trans (textAt_congr (h.legacy .sessionManagerUrl))
  token := hc.token.trans (textAt_congr (h.legacy .sessionManagerToken))
  indexed i hi := by
    have hgreatest : Greatest (p.IndexFor s) i :=
      ⟨(h.indices i).mpr hi.holds, fun j hj => hi.after j ((h.indices j).mp hj)⟩
    have hlogin := h.logins i hgreatest.holds
    obtain ⟨huser, hpassword⟩ := hc.indexed i hgreatest
    exact ⟨huser.trans (textAt_congr (hlogin .username)),
      hpassword.trans (textAt_congr (hlogin .password))⟩
  legacy hnone := by
    obtain ⟨huser, hpassword⟩ := hc.legacy fun i hi => hnone i ((h.indices i).mp hi)
    exact ⟨huser.trans (textAt_congr (h.legacy .username)),
      hpassword.trans (textAt_congr (h.legacy .password))⟩

/-- Payloads that say the same about a server give it the same credential. -/
theorem holds_iff (h : p.AgreeOn q s) {c : Credential} : p.Holds s c ↔ q.Holds s c :=
  ⟨h.holds, h.symm.holds⟩

end AgreeOn

/-! ## The keys of an index -/

theorem contains_of_textAt_ne {k : String} (h : p.textAt k ≠ "") : p.contains k = true := by
  refine Bool.not_eq_false _ ▸ fun hk => h ?_
  rw [textAt, Table.get?_eq_none_iff.mpr hk]
  rfl

theorem brokenIndex_iff {i : String} :
    p.BrokenIndex i ↔ p.HasIndex i ∧ ∃ f : IndexedField, p.textAt (f.head ++ i) = "" := by
  refine and_congr_right fun _ => ⟨?_, ?_⟩
  · rintro (h | h | h)
    · exact ⟨.server, h⟩
    · exact ⟨.username, h⟩
    · exact ⟨.password, h⟩
  · rintro ⟨f, hf⟩
    cases f with
    | username => exact .inr (.inl hf)
    | password => exact .inr (.inr hf)
    | server => exact .inl hf

/-- An index of a payload without faults has all of its keys. -/
theorem Faultless.contains_of_hasIndex (h : p.Faultless) {i : String} (hi : p.HasIndex i)
    (f : IndexedField) : p.contains (f.head ++ i) = true :=
  contains_of_textAt_ne fun hempty => h.indices i (brokenIndex_iff.mpr ⟨hi, f, hempty⟩)

/-! ## Payloads put together -/

/-- The keys of both payloads with their values. -/
abbrev union (p q : SecretPayload) : SecretPayload := Table.union p q

theorem hasIndex_union {i : String} :
    (p.union q).HasIndex i ↔ p.HasIndex i ∨ q.HasIndex i := by
  simp only [HasIndex, Table.contains_union, or_and_right, exists_or]

theorem hasLegacy_union : (p.union q).HasLegacy s ↔ p.HasLegacy s ∨ q.HasLegacy s := by
  simp only [HasLegacy, Table.contains_union, or_and_right, exists_or]

/-- Two payloads without faults that have no key and no server in common. -/
structure Apart (p q : SecretPayload) : Prop where
  left : p.Faultless
  right : q.Faultless
  keys : p.Disjoint q
  servers : ∀ s, p.Names s → ¬ q.Names s

namespace Apart

theorem symm (h : p.Apart q) : q.Apart p :=
  ⟨h.right, h.left, h.keys.symm, fun s hq hp => h.servers s hp hq⟩

theorem union_comm (h : p.Apart q) : p.union q = q.union p := Table.Disjoint.union_comm h.keys

/-- What the first payload has of an index is what both have together. -/
theorem get?_index (h : p.Apart q) {i : String} (hi : p.HasIndex i) (f : IndexedField) :
    (p.union q).get? (f.head ++ i) = p.get? (f.head ++ i) :=
  Table.get?_union_of_contains (h.left.contains_of_hasIndex hi f)

theorem textAt_index (h : p.Apart q) {i : String} (hi : p.HasIndex i) (f : IndexedField) :
    (p.union q).textAt (f.head ++ i) = p.textAt (f.head ++ i) :=
  textAt_congr (h.get?_index hi f)

theorem indexFor_left (h : p.Apart q) {i : String} (hi : p.IndexFor s i) :
    (p.union q).IndexFor s i :=
  ⟨hasIndex_union.mpr (.inl hi.1), (h.textAt_index hi.1 .server).trans hi.2⟩

theorem indexFor_iff (h : p.Apart q) {i : String} :
    (p.union q).IndexFor s i ↔ p.IndexFor s i ∨ q.IndexFor s i := by
  constructor
  · rintro ⟨hi, hs⟩
    rcases hasIndex_union.mp hi with hi | hi
    · exact .inl ⟨hi, (h.textAt_index hi .server).symm.trans hs⟩
    · rw [h.union_comm] at hs
      exact .inr ⟨hi, (h.symm.textAt_index hi .server).symm.trans hs⟩
  · rintro (hi | hi)
    · exact h.indexFor_left hi
    · rw [h.union_comm]
      exact h.symm.indexFor_left hi

theorem names_iff (h : p.Apart q) : (p.union q).Names s ↔ p.Names s ∨ q.Names s := by
  simp only [Names, hasLegacy_union, h.indexFor_iff, exists_or]
  exact or_or_or_comm

/-- Of a server of the first payload both together say what the first one does, for a legacy key of
it in the second payload would name it there. -/
theorem agreeOn (h : p.Apart q) (hs : p.Names s) : p.AgreeOn (p.union q) s where
  legacy f := by
    have hne : s ≠ "" := names_ne_empty (indicesNameServers_of_not_broken h.left.indices) hs
    have hnone : q.contains (s ++ f.suffix) = false := Bool.eq_false_iff.mpr fun hf =>
      h.servers s hs (.inl (hasLegacy_iff.mpr ⟨hne, f, hf⟩))
    rw [h.union_comm, Table.get?_union_of_not_contains hnone]
  indices i := by
    rw [h.indexFor_iff]
    exact (or_iff_left fun hi => h.servers s hs (.inr ⟨i, hi⟩)).symm
  logins i hi f := (h.get?_index hi.1 f).symm

theorem holds_iff_left (h : p.Apart q) (hs : p.Names s) {c : Credential} :
    (p.union q).Holds s c ↔ p.Holds s c := (h.agreeOn hs).holds_iff.symm

theorem holds_iff_right (h : p.Apart q) (hs : q.Names s) {c : Credential} :
    (p.union q).Holds s c ↔ q.Holds s c := by
  rw [h.union_comm]
  exact h.symm.holds_iff_left hs

theorem not_brokenIndex (h : p.Apart q) {i : String} (hi : p.HasIndex i) :
    ¬ (p.union q).BrokenIndex i := by
  intro hbroken
  obtain ⟨-, f, hempty⟩ := brokenIndex_iff.mp hbroken
  exact h.left.indices i (brokenIndex_iff.mpr ⟨hi, f, (h.textAt_index hi f).symm.trans hempty⟩)

/-- Together they have no faults either. -/
theorem faultless (h : p.Apart q) : (p.union q).Faultless where
  nonempty := by
    obtain ⟨k, hk⟩ := Table.isEmpty_eq_false_iff.mp h.left.nonempty
    exact Table.isEmpty_eq_false_iff.mpr ⟨k, Table.contains_union.mpr (.inl hk)⟩
  known := by
    rintro k ⟨hk, hunknown⟩
    rcases Table.contains_union.mp hk with hk | hk
    · exact h.left.known k ⟨hk, hunknown⟩
    · exact h.right.known k ⟨hk, hunknown⟩
  indices i hi := by
    rcases hasIndex_union.mp hi.1 with hp | hq
    · exact h.not_brokenIndex hp hi
    · rw [h.union_comm] at hi
      exact h.symm.not_brokenIndex hq hi
  servers := by
    rintro s ⟨c, hc, hfaulty⟩
    rcases h.names_iff.mp hc.named with hs | hs
    · exact h.left.servers s ⟨c, (h.holds_iff_left hs).mp hc, hfaulty⟩
    · exact h.right.servers s ⟨c, (h.holds_iff_right hs).mp hc, hfaulty⟩

end Apart

theorem contains_of_parse {T : CredentialTable} (h : p.parse = .ok T) :
    T.contains s = true ↔ p.Names s := by
  rw [Table.contains_iff]
  constructor
  · rintro ⟨c, hc⟩
    exact ((get?_of_parse h).mp hc).named
  · intro hs
    obtain ⟨c, hc⟩ := exists_holds hs
    exact ⟨c, (get?_of_parse h).mpr hc⟩

/-- Payloads that have no key and no server in common are read together as they are read apart. -/
theorem parse_union {T U : CredentialTable} (hp : p.parse = .ok T) (hq : q.parse = .ok U)
    (hkeys : p.Disjoint q) (hservers : T.Disjoint U) : (p.union q).parse = .ok (T.union U) := by
  have hnames : ∀ s, p.Names s → ¬ q.Names s := by
    intro s hs hs'
    have hnone := hservers s ((contains_of_parse hp).mpr hs)
    rw [(contains_of_parse hq).mpr hs'] at hnone
    cases hnone
  have h : p.Apart q := ⟨faultless_of_parse hp, faultless_of_parse hq, hkeys, hnames⟩
  refine (Outcome.table h.faultless fun s c => ?_).parse_eq
  cases hs : T.contains s with
  | true =>
      rw [Table.get?_union_of_contains hs, get?_of_parse hp,
        h.holds_iff_left ((contains_of_parse hp).mp hs)]
  | false =>
      rw [Table.get?_union_of_not_contains hs, get?_of_parse hq]
      have hnot : ¬ p.Names s := fun hn => by
        rw [(contains_of_parse hp).mpr hn] at hs
        cases hs
      constructor
      · exact fun hc => (h.holds_iff_right hc.named).mpr hc
      · intro hc
        exact (h.holds_iff_right ((h.names_iff.mp hc.named).resolve_left hnot)).mp hc

/-! ## A payload taken apart -/

/-- The key gives the server a value: it is a legacy key of the server, or it belongs to an
index for the server. -/
def isAbout (p : SecretPayload) (s k : String) : Bool :=
  match SecretKey.classify? k with
  | some (.legacy t _) => t = s
  | some (.indexed i _) => p.textAt ("server_" ++ i) = s
  | none => false

/-- The part of a payload that is about a server. -/
def part (p : SecretPayload) (s : String) : SecretPayload := p.restrict (p.isAbout s)

theorem isAbout_legacy {t : String} {f : LegacyField} {k : String}
    (hk : SecretKey.classify? k = some (.legacy t f)) : p.isAbout s k = true ↔ t = s := by
  rw [isAbout, hk]
  exact decide_eq_true_iff

theorem isAbout_indexed {i : String} {f : IndexedField} {k : String}
    (hk : SecretKey.classify? k = some (.indexed i f)) :
    p.isAbout s k = true ↔ p.textAt ("server_" ++ i) = s := by
  rw [isAbout, hk]
  exact decide_eq_true_iff

theorem contains_part {k : String} :
    (p.part s).contains k = true ↔ p.isAbout s k = true ∧ p.contains k = true :=
  Table.contains_restrict

theorem get?_part {k : String} (h : p.isAbout s k = true) : (p.part s).get? k = p.get? k :=
  (Table.get?_restrict p (p.isAbout s) k).trans (if_pos h)

theorem hasLegacy_part {t : String} : (p.part s).HasLegacy t ↔ t = s ∧ p.HasLegacy t := by
  constructor
  · rintro ⟨k, f, hk, hkey⟩
    obtain ⟨habout, hk⟩ := contains_part.mp hk
    exact ⟨(isAbout_legacy hkey).mp habout, k, f, hk, hkey⟩
  · rintro ⟨hs, k, f, hk, hkey⟩
    exact ⟨k, f, contains_part.mpr ⟨(isAbout_legacy hkey).mpr hs, hk⟩, hkey⟩

theorem hasIndex_part {i : String} : (p.part s).HasIndex i ↔ p.IndexFor s i := by
  constructor
  · rintro ⟨k, f, hk, hkey⟩
    obtain ⟨habout, hk⟩ := contains_part.mp hk
    exact ⟨⟨k, f, hk, hkey⟩, (isAbout_indexed hkey).mp habout⟩
  · rintro ⟨⟨k, f, hk, hkey⟩, hs⟩
    exact ⟨k, f, contains_part.mpr ⟨(isAbout_indexed hkey).mpr hs, hk⟩, hkey⟩

/-- An index goes into a part with all of its keys. -/
theorem get?_part_index {i : String} (hi : p.IndexFor s i) (f : IndexedField) :
    (p.part s).get? (f.head ++ i) = p.get? (f.head ++ i) := by
  obtain ⟨⟨k, g, -, hkey⟩, hs⟩ := hi
  exact get?_part ((isAbout_indexed (SecretKey.classify?_indexed_field hkey f)).mpr hs)

theorem indexFor_part {t i : String} : (p.part s).IndexFor t i ↔ t = s ∧ p.IndexFor s i := by
  constructor
  · rintro ⟨hi, ht⟩
    have hs := hasIndex_part.mp hi
    have hserver := textAt_congr (get?_part_index hs .server)
    exact ⟨ht.symm.trans (hserver.trans hs.2), hs⟩
  · rintro ⟨rfl, hi⟩
    exact ⟨hasIndex_part.mpr hi, (textAt_congr (get?_part_index hi .server)).trans hi.2⟩

/-- The part that is about a server names no other one. -/
theorem names_part {t : String} : (p.part s).Names t ↔ t = s ∧ p.Names s := by
  simp only [Names, hasLegacy_part, indexFor_part, exists_and_left, ← and_or_left]
  exact and_congr_right fun ht => by rw [ht]

/-- Of its server the part says what the payload does. -/
theorem agreeOn_part (hs : s ≠ "") : p.AgreeOn (p.part s) s where
  legacy _ :=
    (get?_part ((isAbout_legacy (SecretKey.classify?_eq_legacy_iff.mpr ⟨hs, rfl⟩)).mpr rfl)).symm
  indices _ := (indexFor_part.trans (and_iff_right rfl)).symm
  logins _ hi f := (get?_part_index hi f).symm

theorem Faultless.holds_part_iff (h : p.Faultless) (hs : p.Names s) {t : String} {c : Credential} :
    (p.part s).Holds t c ↔ t = s ∧ p.Holds s c := by
  have hagree : p.AgreeOn (p.part s) s :=
    agreeOn_part (names_ne_empty (indicesNameServers_of_not_broken h.indices) hs)
  constructor
  · intro hc
    obtain ⟨rfl, -⟩ := names_part.mp hc.named
    exact ⟨rfl, hagree.holds_iff.mpr hc⟩
  · rintro ⟨rfl, hc⟩
    exact hagree.holds_iff.mp hc

theorem Faultless.part (h : p.Faultless) (hs : p.Names s) : (p.part s).Faultless where
  nonempty := isEmpty_of_names (names_part.mpr ⟨rfl, hs⟩)
  known := by
    rintro k ⟨hk, hunknown⟩
    exact h.known k ⟨(contains_part.mp hk).2, hunknown⟩
  indices i hi := by
    obtain ⟨hindex, f, hempty⟩ := brokenIndex_iff.mp hi
    have hfor := hasIndex_part.mp hindex
    rw [textAt_congr (get?_part_index hfor f)] at hempty
    exact h.indices i (brokenIndex_iff.mpr ⟨hfor.1, f, hempty⟩)
  servers := by
    rintro t ⟨c, hc, hfaulty⟩
    exact h.servers s ⟨c, ((h.holds_part_iff hs).mp hc).2, hfaulty⟩

/-- What a payload says about one of its servers is read alone as the entry of that server. -/
theorem parse_part {T : CredentialTable} {c : Credential} (hp : p.parse = .ok T)
    (hs : T.get? s = some c) : (p.part s).parse = .ok (Table.ofList [(s, c)]) := by
  have hfaultless := faultless_of_parse hp
  have hc := (get?_of_parse hp).mp hs
  refine (Outcome.table (hfaultless.part hc.named) fun t d => ?_).parse_eq
  rw [Table.get?_singleton, hfaultless.holds_part_iff hc.named, ← get?_of_parse hp, hs,
    Option.some.injEq, eq_comm (a := c)]

/-! ## Servers are independent -/

/-- Payloads without a common key or server are read together as they are read apart; and of
a payload that can be read, what is about one server is read alone as the entry of that server. -/
theorem parse_independent :
    (∀ (p q : SecretPayload) (T U : CredentialTable), p.parse = .ok T → q.parse = .ok U →
      p.Disjoint q → T.Disjoint U → (p.union q).parse = .ok (T.union U)) ∧
    ∀ (p : SecretPayload) (T : CredentialTable), p.parse = .ok T →
      ∀ s c, T.get? s = some c → (p.part s).parse = .ok (Table.ofList [(s, c)]) :=
  ⟨fun _ _ _ _ hp hq hkeys hservers => parse_union hp hq hkeys hservers,
    fun _ _ hp _ _ hs => parse_part hp hs⟩

/-- Two servers, one named by its keys and one by two indices. -/
def inland : SecretPayload :=
  ofTexts [("m.username", "um"), ("m.password", "pm"), ("server_1", "n"), ("username_1", "u1"),
    ("password_1", "p1"), ("server_3", "n\n"), ("username_3", "u3"), ("password_3", "p3")]

/-- A server that is named in both ways, by keys between the others. -/
def overseas : SecretPayload :=
  ofTexts [("o.vc-session-manager-url", "https://o/"), ("o.vc-session-manager-token", "t"),
    ("server_2", "o"), ("username_2", "u2"), ("password_2", "p2")]

theorem parse_independent_overseas :
    (inland.union overseas).parse = .ok (Table.ofList [("m", { user := "um", password := "pm" }),
        ("n", { user := "u3", password := "p3" }), ("o", ⟨"u2", "p2", "https://o/", "t"⟩)]) ∧
      ((inland.union overseas).part "n").parse =
        .ok (Table.ofList [("n", { user := "u3", password := "p3" })]) := by
  have hinland : inland.parse = .ok (Table.ofList [("m", { user := "um", password := "pm" }),
      ("n", { user := "u3", password := "p3" })]) := toOption_eq_some_iff.mp (by decide +kernel)
  have hoverseas : overseas.parse = .ok (Table.ofList [("o", ⟨"u2", "p2", "https://o/", "t"⟩)]) :=
    toOption_eq_some_iff.mp (by decide +kernel)
  have h := parse_independent.1 _ _ _ _ hinland hoverseas (by decide) (by decide)
  exact ⟨h, parse_independent.2 _ _ h "n" _ (by decide)⟩

end SecretPayload

end VcenterAccess
