import VcenterAccess.Proofs.Secret.Writing

/-!
# Reading what was written

A table of credentials may be written by server, in the legacy way (`dotted`),
and a table of logins by index (`indexed`).

Reading a dotted payload gives back the table, whatever its servers are called
(`parse_dotted`): a key ends in at most one suffix, in one way.  The tables that
can be written are just those that can be read at all.

Reading an indexed payload gives each server the login of its greatest index
(`parse_indexed`), unless some index ends in the suffix of a legacy field.  A key
with such an index has both forms, and one payload may be written in both ways
from different tables (`indexed_read_as_dotted`).  The legacy form goes first.
-/

namespace VcenterAccess

open Text

/-- A credential in which nothing is set is faulty. -/
theorem Credential.exists_field_of_not_faulty {c : Credential} (h : ¬ c.Faulty) :
    ∃ f, c.field f ≠ "" := by
  by_contra hnone
  have hblank : ∀ f, c.field f = "" := fun f => by
    by_contra hf
    exact hnone ⟨f, hf⟩
  exact h (.inl ⟨hblank .username, hblank .password, hblank .sessionManagerUrl,
    hblank .sessionManagerToken⟩)

namespace SecretPayload

/-! ## Payloads in one form -/

section

variable {p : SecretPayload}

/-- Without indices the legacy credentials are read as they are. -/
theorem parse_of_no_index (hp : p.isEmpty = false) (hknown : ∀ k, ¬ p.UnknownKey k)
    (hindex : ∀ i, ¬ p.HasIndex i)
    (hcomplete : ∀ s c, p.legacyTable.get? s = some c → ¬ c.Faulty) :
    p.parse = .ok p.legacyTable := by
  have hfor : ∀ s i, ¬ p.IndexFor s i := fun s i hi => hindex i hi.1
  have hservers : ∀ s, ¬ p.FaultyServer s := by
    rintro s ⟨c, hc, hfaulty⟩
    exact hcomplete s c (legacyTable_get?.mpr ((holds_iff_of_no_index (hfor s)).mp hc)) hfaulty
  have hmerged : p.mergedTable = p.legacyTable :=
    Table.ext_get? fun s => mergedTable_get?_of_no_index (hfor s)
  rw [parse_of_faultless ⟨hp, hknown, fun i hi => hindex i hi.1, hservers⟩, hmerged]

/-- The logins have the index, and its server is `s`. -/
def LoginFor (logins : Table IndexedCredential) (s i : String) : Prop :=
  ∃ e, logins.get? i = some e ∧ e.server = s

theorem loginFor_indexTable_iff {s i : String} :
    LoginFor p.indexTable s i ↔ p.IndexFor s i := by
  constructor
  · rintro ⟨e, he, hs⟩
    obtain ⟨hi, rfl⟩ := indexTable_get?.mp he
    exact ⟨hi, hs⟩
  · rintro ⟨hi, hs⟩
    exact ⟨_, indexTable_get?.mpr ⟨hi, rfl⟩, hs⟩

/-- The table has an entry for each server of the logins, and it is the login of
the greatest index for the server. -/
structure LoginsOf (logins : Table IndexedCredential) (T : CredentialTable) : Prop where
  servers : ∀ s, T.contains s = true ↔ ∃ i, LoginFor logins s i
  entries : ∀ s c, T.get? s = some c ↔
    ∃ i e, Greatest (LoginFor logins s) i ∧ logins.get? i = some e ∧
      c = { user := e.username, password := e.password }

theorem legacyAt_of_not_hasLegacy {s : String} (hs : s ≠ "") (h : ¬ p.HasLegacy s) :
    p.legacyAt s = {} := by
  refine Credential.ext_field fun f => ?_
  have htext := textAt_of_not_hasLegacy hs h f
  cases f <;> exact htext

/-- Without legacy keys the login of the greatest index is all that a server gets. -/
theorem holds_iff_of_no_legacy (hp : p.IndicesNameServers) (hlegacy : ∀ s, ¬ p.HasLegacy s)
    {s : String} {c : Credential} :
    p.Holds s c ↔ ∃ i e, Greatest (LoginFor p.indexTable s) i ∧ p.indexTable.get? i = some e ∧
      c = { user := e.username, password := e.password } := by
  have hfor : LoginFor p.indexTable s = p.IndexFor s :=
    funext fun i => propext loginFor_indexTable_iff
  have hblank : ∀ i, p.IndexFor s i → p.legacyAt s = {} := fun i hi =>
    legacyAt_of_not_hasLegacy (hi.2 ▸ hp i hi.1) (hlegacy s)
  rw [hfor]
  constructor
  · intro hc
    obtain ⟨i, hi⟩ := exists_greatest_indexFor (hc.named.resolve_left (hlegacy s))
    refine ⟨i, p.indexedAt i, hi, indexTable_get?.mpr ⟨hi.holds.1, rfl⟩, ?_⟩
    rw [(holds_iff_of_index hi).mp hc, hblank i hi.holds]
    rfl
  · rintro ⟨i, e, hi, he, rfl⟩
    obtain ⟨-, rfl⟩ := indexTable_get?.mp he
    rw [holds_iff_of_index hi, hblank i hi.holds]
    rfl

/-- Without legacy keys the logins of the indices are read. -/
theorem parse_of_no_legacy (hp : p.isEmpty = false) (hknown : ∀ k, ¬ p.UnknownKey k)
    (hlegacy : ∀ s, ¬ p.HasLegacy s)
    (hset : ∀ i e f, p.indexTable.get? i = some e → e.field f ≠ "") :
    ∃ T, p.parse = .ok T ∧ LoginsOf p.indexTable T := by
  have hindices : ∀ i, ¬ p.BrokenIndex i := by
    rintro i ⟨hi, hempty⟩
    have hfield := fun f => hset i _ f (indexTable_get?.mpr ⟨hi, rfl⟩)
    rcases hempty with hserver | husername | hpassword
    · exact hfield .server hserver
    · exact hfield .username husername
    · exact hfield .password hpassword
  have hnamed := indicesNameServers_of_not_broken hindices
  have hservers : ∀ s, ¬ p.FaultyServer s := by
    rintro s ⟨c, hc, hfaulty⟩
    obtain ⟨i, e, -, he, rfl⟩ := (holds_iff_of_no_legacy hnamed hlegacy).mp hc
    have huser : e.username ≠ "" := hset i e .username he
    have hpassword : e.password ≠ "" := hset i e .password he
    rcases hfaulty with ⟨hnone, -⟩ | hlogin | hmanager
    · exact huser hnone
    · exact hlogin.elim (fun h => huser h.1) (fun h => hpassword h.2)
    · exact hmanager.elim (fun h => h.2 rfl) (fun h => h.1 rfl)
  refine ⟨_, parse_of_faultless ⟨hp, hknown, hindices, hservers⟩, fun s => ?_, fun s c => ?_⟩
  · rw [Table.contains_iff]
    constructor
    · rintro ⟨c, hc⟩
      have hnames := ((mergedTable_get? hnamed).mp hc).named
      obtain ⟨i, hi⟩ := hnames.resolve_left (hlegacy s)
      exact ⟨i, loginFor_indexTable_iff.mpr hi⟩
    · rintro ⟨i, hi⟩
      obtain ⟨c, hc⟩ := exists_holds (.inr ⟨i, loginFor_indexTable_iff.mp hi⟩)
      exact ⟨c, (mergedTable_get? hnamed).mpr hc⟩
  · rw [mergedTable_get? hnamed, holds_iff_of_no_legacy hnamed hlegacy]

end

/-! ## The dotted form -/

/-- Tables in which every entry has a server and a complete pair, no entry has
half of a pair, and no field ends in a line feed. -/
structure Legible (T : CredentialTable) : Prop where
  nonempty : T.isEmpty = false
  named : ∀ s c, T.get? s = some c → s ≠ ""
  complete : ∀ s c, T.get? s = some c → ¬ c.Faulty
  trimmed : ∀ s c, T.get? s = some c → ∀ f, ¬ EndsInNewline (c.field f)

theorem legible_iff {T : CredentialTable} :
    Legible T ↔ T.isEmpty = false ∧ (∀ e ∈ T.toList, e.1 ≠ "") ∧
      (∀ e ∈ T.toList, ¬ e.2.Faulty) ∧ ∀ e ∈ T.toList, ∀ f, ¬ EndsInNewline (e.2.field f) where
  mp h := ⟨h.nonempty, fun _ he => Table.forall_get?_iff.mp h.named _ he,
    fun _ he => Table.forall_get?_iff.mp h.complete _ he,
    fun _ he => Table.forall_get?_iff.mp h.trimmed _ he⟩
  mpr := fun ⟨hnonempty, hnamed, hcomplete, htrimmed⟩ => ⟨hnonempty,
    Table.forall_get?_iff.mpr hnamed, Table.forall_get?_iff.mpr hcomplete,
    Table.forall_get?_iff.mpr htrimmed⟩

instance (T : CredentialTable) : Decidable (Legible T) := decidable_of_iff _ legible_iff.symm

/-- The payload that names the values of a table by server. -/
def dotted (lines : String → Nat) (T : CredentialTable) : SecretPayload :=
  byServer.write LegacyField.all lines T

/-- Every field of a credential is the text of a key. -/
theorem Holds.field_eq_textAt {p : SecretPayload} {s : String} {c : Credential} (h : p.Holds s c)
    (f : LegacyField) : ∃ k, c.field f = p.textAt k := by
  have hlogin : ∃ k k', c.user = p.textAt k ∧ c.password = p.textAt k' := by
    by_cases hindex : ∃ i, p.IndexFor s i
    · obtain ⟨i, hi⟩ := exists_greatest_indexFor hindex
      exact ⟨_, _, h.indexed i hi⟩
    · exact ⟨_, _, h.legacy fun i hi => hindex ⟨i, hi⟩⟩
  obtain ⟨k, k', huser, hpassword⟩ := hlogin
  cases f with
  | username => exact ⟨k, huser⟩
  | password => exact ⟨k', hpassword⟩
  | sessionManagerUrl => exact ⟨_, h.url⟩
  | sessionManagerToken => exact ⟨_, h.token⟩

theorem legible_of_parse {p : SecretPayload} {T : CredentialTable} (h : p.parse = .ok T) :
    Legible T := by
  have hfaultless := faultless_of_parse h
  have hnamed := indicesNameServers_of_not_broken hfaultless.indices
  refine ⟨isEmpty_of_parse h, fun s c hs => ?_, fun s c hs hfaulty => ?_, fun s c hs f => ?_⟩
  · exact names_ne_empty hnamed ((get?_of_parse h).mp hs).named
  · exact hfaultless.servers s ⟨c, (get?_of_parse h).mp hs, hfaulty⟩
  · obtain ⟨k, hk⟩ := ((get?_of_parse h).mp hs).field_eq_textAt f
    rw [hk]
    exact not_endsInNewline_textAt p k

variable {T : CredentialTable}

theorem Legible.writable (h : Legible T) : byServer.Writable T where
  readable s c _ hs := SecretKey.classify?_eq_legacy_iff.mpr ⟨h.named s c hs, rfl⟩
  set s c hs := Credential.exists_field_of_not_faulty (h.complete s c hs)
  trimmed s c f hs := h.trimmed s c hs f

theorem Legible.parse_dotted_eq (h : Legible T) (lines : String → Nat) :
    (dotted lines T).parse = .ok T := by
  have hw := h.writable
  have hlegacy : (dotted lines T).legacyTable = T := hw.gathered_write LegacyField.mem_all
  have hindex : ∀ i, ¬ (dotted lines T).HasIndex i := by
    rintro i ⟨k, f, hk, hkey⟩
    obtain ⟨s, c, g, -, -, hread⟩ := hw.classify?_of_contains LegacyField.mem_all hk
    rw [hread] at hkey
    cases hkey
  have hcomplete : ∀ s c, (dotted lines T).legacyTable.get? s = some c → ¬ c.Faulty :=
    hlegacy.symm ▸ h.complete
  have hparse : (dotted lines T).parse = .ok (dotted lines T).legacyTable :=
    parse_of_no_index (hw.isEmpty_write LegacyField.mem_all h.nonempty)
      (hw.known LegacyField.mem_all) hindex hcomplete
  rwa [hlegacy] at hparse

/-- The tables that are read are the legible ones, and each of these is read from
what was written by server, however many line feeds follow the values. -/
theorem parse_dotted (T : CredentialTable) :
    ((∃ p : SecretPayload, p.parse = .ok T) ↔ Legible T) ∧
      (Legible T → ∀ lines, (dotted lines T).parse = .ok T) := by
  refine ⟨⟨?_, fun h => ⟨dotted (fun _ => 0) T, h.parse_dotted_eq _⟩⟩, Legible.parse_dotted_eq⟩
  rintro ⟨p, hp⟩
  exact legible_of_parse hp

/-- Servers that look like keys themselves, with each kind of credential. -/
def keyLike : CredentialTable :=
  Table.ofList [("username_0", { user := "u0", password := "p0" }),
    ("a.password", { sessionManagerUrl := "https://a/", sessionManagerToken := "t" }),
    ("server_.username", ⟨"u", "p", "https://b/", "t\nt"⟩)]

theorem parse_dotted_keyLike :
    Legible keyLike ∧ (dotted String.length keyLike).parse = .ok keyLike := by
  have h : Legible keyLike := by decide
  exact ⟨h, (parse_dotted keyLike).2 h String.length⟩

/-! ## The indexed form -/

/-- Logins under indices, with a user, a password and a server each, and no value
that ends in a line feed. -/
structure LegibleLogins (logins : Table IndexedCredential) : Prop where
  nonempty : logins.isEmpty = false
  named : ∀ i e, logins.get? i = some e → i ≠ ""
  set : ∀ i e, logins.get? i = some e → ∀ f, e.field f ≠ ""
  trimmed : ∀ i e, logins.get? i = some e → ∀ f, ¬ EndsInNewline (e.field f)

theorem legibleLogins_iff {logins : Table IndexedCredential} :
    LegibleLogins logins ↔ logins.isEmpty = false ∧ (∀ e ∈ logins.toList, e.1 ≠ "") ∧
      (∀ e ∈ logins.toList, ∀ f, e.2.field f ≠ "") ∧
      ∀ e ∈ logins.toList, ∀ f, ¬ EndsInNewline (e.2.field f) where
  mp h := ⟨h.nonempty, fun _ he => Table.forall_get?_iff.mp h.named _ he,
    fun _ he => Table.forall_get?_iff.mp h.set _ he,
    fun _ he => Table.forall_get?_iff.mp h.trimmed _ he⟩
  mpr := fun ⟨hnonempty, hnamed, hset, htrimmed⟩ => ⟨hnonempty,
    Table.forall_get?_iff.mpr hnamed, Table.forall_get?_iff.mpr hset,
    Table.forall_get?_iff.mpr htrimmed⟩

instance (logins : Table IndexedCredential) : Decidable (LegibleLogins logins) :=
  decidable_of_iff _ legibleLogins_iff.symm

/-- No index ends in the suffix of a legacy field. -/
def PlainIndices (logins : Table IndexedCredential) : Prop :=
  ∀ i e, logins.get? i = some e → ¬ SecretKey.EndsInSuffix i

/-- The payload that names the values of logins by index. -/
def indexed (lines : String → Nat) (logins : Table IndexedCredential) : SecretPayload :=
  byIndex.write IndexedField.all lines logins

instance (logins : Table IndexedCredential) : Decidable (PlainIndices logins) :=
  decidable_of_iff _ Table.forall_get?_iff.symm

variable {logins : Table IndexedCredential}

theorem LegibleLogins.writable (h : LegibleLogins logins) (hplain : PlainIndices logins) :
    byIndex.Writable logins where
  readable i e f hi := SecretKey.classify?_head_append (h.named i e hi) (hplain i e hi) f
  set i e hi := ⟨.server, h.set i e hi .server⟩
  trimmed i e f hi := h.trimmed i e hi f

/-- Logins are read from what was written by index, however many line feeds follow
the values, if no index ends in a suffix.  An index that does is never read as one. -/
theorem parse_indexed (logins : Table IndexedCredential) :
    (LegibleLogins logins → PlainIndices logins → ∀ lines,
      ∃ T, (indexed lines logins).parse = .ok T ∧ LoginsOf logins T) ∧
    ∀ t g f, SecretKey.classify? (IndexedField.head f ++ (t ++ LegacyField.suffix g)) =
      some (.legacy (f.head ++ t) g) := by
  refine ⟨fun h hplain lines => ?_, fun t g f => SecretKey.classify?_head_append_suffix f t g⟩
  have hw := h.writable hplain
  have hindex : (indexed lines logins).indexTable = logins :=
    hw.gathered_write IndexedField.mem_all
  have hlegacy : ∀ s, ¬ (indexed lines logins).HasLegacy s := by
    rintro s ⟨k, f, hk, hkey⟩
    obtain ⟨i, e, g, -, -, hread⟩ := hw.classify?_of_contains IndexedField.mem_all hk
    rw [hread] at hkey
    cases hkey
  have hset : ∀ i e f, (indexed lines logins).indexTable.get? i = some e → e.field f ≠ "" := by
    rw [hindex]
    exact fun i e f hi => h.set i e hi f
  have hparse := parse_of_no_legacy (p := indexed lines logins)
    (hw.isEmpty_write IndexedField.mem_all h.nonempty) (hw.known IndexedField.mem_all) hlegacy hset
  rwa [hindex] at hparse

/-- Indices with full stops and reserved words, two of them for one server. -/
def wordy : Table IndexedCredential :=
  Table.ofList [("0", ⟨"fd01::1", "u0", "p0"⟩), ("a.username_b", ⟨"10.0.0.1", "u1", "p1"⟩),
    ("server_x.y", ⟨"fd01::1", "u2", "p2"⟩)]

theorem parse_indexed_wordy :
    LegibleLogins wordy ∧ PlainIndices wordy ∧
      ∃ T, (indexed String.length wordy).parse = .ok T ∧ LoginsOf wordy T := by
  have h : LegibleLogins wordy := by decide
  have hplain : PlainIndices wordy := by decide
  exact ⟨h, hplain, (parse_indexed wordy).1 h hplain String.length⟩

/-- Logins under indices that end in suffixes. -/
def ambiguousLogins : Table IndexedCredential :=
  Table.ofList [("a.username", ⟨"10.0.0.1", "u1", "p1"⟩), ("a.password", ⟨"10.0.0.2", "u2", "p2"⟩)]

/-- The table that has the same payload. -/
def ambiguousTable : CredentialTable :=
  Table.ofList [("username_a", { user := "u1", password := "u2" }),
    ("password_a", { user := "p1", password := "p2" }),
    ("server_a", { user := "10.0.0.1", password := "10.0.0.2" })]

/-- One payload is written in both ways, and it is not read as the logins: the server of an index
is missing in the table. -/
theorem indexed_read_as_dotted :
    LegibleLogins ambiguousLogins ∧ Legible ambiguousTable ∧
      indexed (fun _ => 0) ambiguousLogins = dotted (fun _ => 0) ambiguousTable ∧
      (indexed (fun _ => 0) ambiguousLogins).parse = .ok ambiguousTable ∧
      ¬ ∃ T, (indexed (fun _ => 0) ambiguousLogins).parse = .ok T ∧
        LoginsOf ambiguousLogins T := by
  have hlegible : Legible ambiguousTable := by decide
  have hsame : indexed (fun _ => 0) ambiguousLogins = dotted (fun _ => 0) ambiguousTable := by
    decide +kernel
  have hparse : (indexed (fun _ => 0) ambiguousLogins).parse = .ok ambiguousTable := by
    rw [hsame]
    exact hlegible.parse_dotted_eq _
  refine ⟨by decide, hlegible, hsame, hparse, ?_⟩
  rintro ⟨T, hT, hlogins⟩
  rw [hparse] at hT
  obtain rfl := Except.ok.inj hT
  have hserver : ambiguousTable.contains "10.0.0.1" = true :=
    (hlogins.servers "10.0.0.1").mpr ⟨"a.username", ⟨"10.0.0.1", "u1", "p1"⟩, by decide, rfl⟩
  exact absurd hserver (by decide)

end SecretPayload

end VcenterAccess
