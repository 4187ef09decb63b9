import VcenterAccess.Proofs.Secret.Merging

/-!
# What comes of reading a payload

Reading a payload stops at the first of four faults: there is no key at all, a
key is unknown, an index is broken, a server is faulty.  Within a kind of fault
the least key, index or server is reported.  Only a faultless payload is read,
and then as the credentials it holds.

`Outcome` is this verdict, said of the payload alone.  Each of its cases is what
`parse` answers (`Outcome.parse_eq`), and one of them always applies
(`exists_outcome`).
-/

namespace VcenterAccess

open Text

/-! ## Faults -/

/-- One of two texts is set and the other is not. -/
def OneSided (a b : String) : Prop := a = "" ∧ b ≠ "" ∨ a ≠ "" ∧ b = ""

/-- Nothing is set, or half of a pair. -/
def Credential.Faulty (c : Credential) : Prop :=
  (c.user = "" ∧ c.password = "" ∧ c.sessionManagerUrl = "" ∧ c.sessionManagerToken = "") ∨
    OneSided c.user c.password ∨ OneSided c.sessionManagerUrl c.sessionManagerToken

instance (a b : String) : Decidable (OneSided a b) := inferInstanceAs (Decidable (_ ∨ _))

instance (c : Credential) : Decidable c.Faulty := inferInstanceAs (Decidable (_ ∨ _ ∨ _))

namespace SecretPayload

/-- The key is there and is neither legacy nor indexed. -/
def UnknownKey (p : SecretPayload) (k : String) : Prop :=
  p.contains k = true ∧ SecretKey.classify? k = none

/-- The index is there and lacks its server, user or password. -/
def BrokenIndex (p : SecretPayload) (i : String) : Prop :=
  p.HasIndex i ∧ (p.textAt ("server_" ++ i) = "" ∨ p.textAt ("username_" ++ i) = "" ∨
    p.textAt ("password_" ++ i) = "")

/-- The credential of the server is faulty. -/
def FaultyServer (p : SecretPayload) (s : String) : Prop := ∃ c, p.Holds s c ∧ c.Faulty

/-- A payload that has keys, all of them known, complete indices and usable credentials. -/
structure Faultless (p : SecretPayload) : Prop where
  nonempty : p.isEmpty = false
  known : ∀ k, ¬ p.UnknownKey k
  indices : ∀ i, ¬ p.BrokenIndex i
  servers : ∀ s, ¬ p.FaultyServer s

/-- The verdict on a payload: the first fault, or the credentials it holds. -/
inductive Outcome (p : SecretPayload) : Except ParseError CredentialTable → Prop where
  /-- There is nothing. -/
  | nothing : p.isEmpty = true → Outcome p (.error (.credentialMissing none))
  /-- A key is unknown, whatever else is wrong. -/
  | unknownKey {k : String} : Least p.UnknownKey k → Outcome p (.error (.unknownKey k))
  /-- An index is broken and has no server. -/
  | noServer {i : String} : (∀ k, ¬ p.UnknownKey k) → Least p.BrokenIndex i →
      p.textAt ("server_" ++ i) = "" → Outcome p (.error (.incompleteIndex i))
  /-- An index is broken and has a server. -/
  | noLogin {i : String} : (∀ k, ¬ p.UnknownKey k) → Least p.BrokenIndex i →
      p.textAt ("server_" ++ i) ≠ "" →
      Outcome p (.error (.credentialMissing (some (p.textAt ("server_" ++ i)))))
  /-- A server is faulty, and nothing before it is wrong. -/
  | faultyServer {s : String} : (∀ k, ¬ p.UnknownKey k) → (∀ i, ¬ p.BrokenIndex i) →
      Least p.FaultyServer s → Outcome p (.error (.credentialMissing (some s)))
  /-- Nothing is wrong. -/
  | table {T : CredentialTable} : p.Faultless → (∀ s c, T.get? s = some c ↔ p.Holds s c) →
      Outcome p (.ok T)

end SecretPayload

/-! ## Checks -/

/-- What is complete is what is not faulty. -/
theorem Credential.isComplete_iff {c : Credential} : c.isComplete = true ↔ ¬ c.Faulty := by
  obtain ⟨user, password, url, token⟩ := c
  simp only [Credential.isComplete, Credential.hasLogin, Credential.hasSessionManager,
    Credential.Faulty, OneSided, Bool.and_eq_true, Bool.or_eq_true, Bool.not_eq_true',
    ← Bool.not_eq_true, String.isEmpty_iff]
  by_cases user = "" <;> by_cases password = "" <;> by_cases url = "" <;> by_cases token = "" <;>
    simp [*]

namespace SecretPayload

variable {p : SecretPayload}

theorem checkIndex_eq_ok {i : String} {c : IndexedCredential} (hserver : c.server ≠ "")
    (husername : c.username ≠ "") (hpassword : c.password ≠ "") : checkIndex i c = .ok () := by
  unfold checkIndex
  rw [if_neg (by rwa [String.isEmpty_iff]), if_neg]
  rw [Bool.or_eq_true, String.isEmpty_iff, String.isEmpty_iff]
  exact not_or.mpr ⟨husername, hpassword⟩

theorem checkIndex_of_no_server {i : String} {c : IndexedCredential} (h : c.server = "") :
    checkIndex i c = .error (.incompleteIndex i) := by
  unfold checkIndex
  rw [if_pos (by rwa [String.isEmpty_iff])]

theorem checkIndex_of_no_login {i : String} {c : IndexedCredential} (hserver : c.server ≠ "")
    (h : c.username = "" ∨ c.password = "") :
    checkIndex i c = .error (.credentialMissing (some c.server)) := by
  unfold checkIndex
  rw [if_neg (by rwa [String.isEmpty_iff]), if_pos]
  rwa [Bool.or_eq_true, String.isEmpty_iff, String.isEmpty_iff]

theorem checkServer_eq_ok {s : String} {c : Credential} (h : ¬ c.Faulty) :
    checkServer s c = .ok () :=
  if_pos (Credential.isComplete_iff.mpr h)

theorem checkServer_of_faulty {s : String} {c : Credential} (h : c.Faulty) :
    checkServer s c = .error (.credentialMissing (some s)) :=
  if_neg fun hc => Credential.isComplete_iff.mp hc h

/-! ## The cases of the verdict -/

theorem readItem_of_unknown {e : String × List UInt8} (h : SecretKey.classify? e.1 = none) :
    readItem e = .error (.unknownKey e.1) := by
  unfold readItem
  rw [h]

theorem readItem_of_known {e : String × List UInt8} (h : SecretKey.classify? e.1 ≠ none) :
    ∃ item, readItem e = .ok item := by
  obtain ⟨key, hkey⟩ := Option.ne_none_iff_exists'.mp h
  exact ⟨(key, decodeValue e.2), readItem_eq_ok_iff.mpr ⟨hkey, rfl⟩⟩

theorem parse_of_isEmpty (h : p.isEmpty = true) :
    p.parse = .error (.credentialMissing none) := by
  unfold parse
  rw [if_pos h]
  rfl

theorem parse_of_nonempty (h : p.isEmpty = false) :
    p.parse = do
      let items ← p.toList.mapM readItem
      let indexed := items.foldl gatherIndexed ∅
      indexed.toList.forM fun entry => checkIndex entry.1 entry.2
      let table := indexed.toList.foldl (fun table entry => overlay table entry.2)
        (items.foldl gatherLegacy ∅)
      table.toList.forM fun entry => checkServer entry.1 entry.2
      return table := by
  unfold parse
  rw [if_neg (by rw [h]; exact Bool.false_ne_true)]

theorem parse_of_unknownKey {k : String} (h : Least p.UnknownKey k) :
    p.parse = .error (.unknownKey k) := by
  obtain ⟨hk, hunknown⟩ := h.holds
  obtain ⟨bytes, hmem⟩ := Table.contains_iff_mem.mp hk
  have hwalk : p.toList.mapM readItem = .error (.unknownKey k) := by
    refine p.ordered.mapM_eq_error hmem (readItem_of_unknown hunknown) fun e he hlt => ?_
    refine readItem_of_known fun hnone => ?_
    exact h.le ⟨Table.contains_of_mem he, hnone⟩ hlt
  rw [parse_of_nonempty (Table.isEmpty_eq_false_iff.mpr ⟨k, hk⟩), hwalk]
  rfl

/-- With known keys only, reading comes down to the two checks. -/
theorem parse_of_known (hp : p.isEmpty = false) (hk : ∀ k, ¬ p.UnknownKey k) :
    p.parse = do
      p.indexTable.toList.forM fun entry => checkIndex entry.1 entry.2
      p.mergedTable.toList.forM fun entry => checkServer entry.1 entry.2
      return p.mergedTable := by
  have hwalk : p.toList.mapM readItem = .ok p.items :=
    mapM_eq_ok fun e he => readItem_of_known fun hnone => hk e.1 ⟨Table.contains_of_mem he, hnone⟩
  rw [parse_of_nonempty hp, hwalk]
  rfl

/-- An index that is not broken passes its check. -/
theorem checkIndex_of_not_broken {e : String × IndexedCredential} (he : e ∈ p.indexTable.toList)
    (h : ¬ p.BrokenIndex e.1) : checkIndex e.1 e.2 = .ok () := by
  obtain ⟨hi, hc⟩ := indexTable_get?.mp (Table.get?_eq_some_iff.mpr he)
  rw [hc]
  refine checkIndex_eq_ok ?_ ?_ ?_ <;> intro hempty
  · exact h ⟨hi, .inl hempty⟩
  · exact h ⟨hi, .inr (.inl hempty)⟩
  · exact h ⟨hi, .inr (.inr hempty)⟩

theorem parse_of_brokenIndex {i : String} {e : ParseError} (hk : ∀ k, ¬ p.UnknownKey k)
    (h : Least p.BrokenIndex i) (he : checkIndex i (p.indexedAt i) = .error e) :
    p.parse = .error e := by
  obtain ⟨hi, -⟩ := h.holds
  have hmem : (i, p.indexedAt i) ∈ p.indexTable.toList :=
    Table.get?_eq_some_iff.mp (indexTable_get?.mpr ⟨hi, rfl⟩)
  have hwalk : p.indexTable.toList.forM (fun entry => checkIndex entry.1 entry.2) = .error e := by
    refine p.indexTable.ordered.forM_eq_error hmem he fun b hb hlt => ?_
    exact checkIndex_of_not_broken hb fun hbroken => h.le hbroken hlt
  obtain ⟨k, -, hkey, -⟩ := hi
  rw [parse_of_known (Table.isEmpty_eq_false_iff.mpr ⟨k, hkey⟩) hk, hwalk]
  rfl

/-- Without a broken index every index is about a server. -/
theorem indicesNameServers_of_not_broken (hi : ∀ i, ¬ p.BrokenIndex i) : p.IndicesNameServers :=
  fun i hindex hempty => hi i ⟨hindex, .inl hempty⟩

theorem isEmpty_of_names {s : String} (h : p.Names s) : p.isEmpty = false := by
  rw [Table.isEmpty_eq_false_iff]
  rcases h with ⟨k, -, hk, -⟩ | ⟨i, ⟨k, -, hk, -⟩, -⟩
  · exact ⟨k, hk⟩
  · exact ⟨k, hk⟩

/-- With known keys and complete indices, reading comes down to the servers. -/
theorem parse_of_complete (hp : p.isEmpty = false) (hk : ∀ k, ¬ p.UnknownKey k)
    (hi : ∀ i, ¬ p.BrokenIndex i) :
    p.parse = do
      p.mergedTable.toList.forM fun entry => checkServer entry.1 entry.2
      return p.mergedTable := by
  have hwalk : p.indexTable.toList.forM (fun entry => checkIndex entry.1 entry.2) = .ok () :=
    forM_eq_ok fun e he => checkIndex_of_not_broken he (hi e.1)
  rw [parse_of_known hp hk, hwalk]
  rfl

theorem parse_of_faultyServer {s : String} (hk : ∀ k, ¬ p.UnknownKey k)
    (hi : ∀ i, ¬ p.BrokenIndex i) (h : Least p.FaultyServer s) :
    p.parse = .error (.credentialMissing (some s)) := by
  have hp := indicesNameServers_of_not_broken hi
  obtain ⟨c, hc, hfaulty⟩ := h.holds
  have hmem : (s, c) ∈ p.mergedTable.toList :=
    Table.get?_eq_some_iff.mp ((mergedTable_get? hp).mpr hc)
  have hwalk : p.mergedTable.toList.forM (fun entry => checkServer entry.1 entry.2) =
      .error (.credentialMissing (some s)) := by
    refine p.mergedTable.ordered.forM_eq_error hmem (checkServer_of_faulty hfaulty) ?_
    intro b hb hlt
    refine checkServer_eq_ok fun hbad => ?_
    exact h.le ⟨b.2, (mergedTable_get? hp).mp (Table.get?_eq_some_iff.mpr hb), hbad⟩ hlt
  rw [parse_of_complete (isEmpty_of_names hc.named) hk hi, hwalk]
  rfl

theorem parse_of_faultless (h : p.Faultless) : p.parse = .ok p.mergedTable := by
  have hp := indicesNameServers_of_not_broken h.indices
  have hwalk : p.mergedTable.toList.forM (fun entry => checkServer entry.1 entry.2) = .ok () := by
    refine forM_eq_ok fun e he => checkServer_eq_ok fun hbad => ?_
    exact h.servers e.1 ⟨e.2, (mergedTable_get? hp).mp (Table.get?_eq_some_iff.mpr he), hbad⟩
  rw [parse_of_complete h.nonempty h.known h.indices, hwalk]
  rfl

/-! ## The verdict -/

/-- The verdict is what reading answers. -/
theorem Outcome.parse_eq {r : Except ParseError CredentialTable} (h : p.Outcome r) :
    p.parse = r := by
  cases h with
  | nothing hempty => exact parse_of_isEmpty hempty
  | unknownKey hk => exact parse_of_unknownKey hk
  | noServer hk hi hserver =>
      exact parse_of_brokenIndex hk hi (checkIndex_of_no_server hserver)
  | noLogin hk hi hserver =>
      exact parse_of_brokenIndex hk hi
        (checkIndex_of_no_login hserver (hi.holds.2.resolve_left hserver))
  | faultyServer hk hi hs => exact parse_of_faultyServer hk hi hs
  | table hfaultless hT =>
      rw [parse_of_faultless hfaultless]
      refine congrArg Except.ok (Table.ext_get? fun s => Option.ext fun c => ?_)
      rw [hT s c, mergedTable_get? (indicesNameServers_of_not_broken hfaultless.indices)]

/-- Every payload has a verdict. -/
theorem exists_outcome (p : SecretPayload) : ∃ r, p.Outcome r := by
  cases hempty : p.isEmpty with
  | true => exact ⟨_, .nothing hempty⟩
  | false =>
      by_cases hk : ∃ k, p.UnknownKey k
      · obtain ⟨k, hleast⟩ := Table.exists_least p (fun _ h => h.1) hk
        exact ⟨_, .unknownKey hleast⟩
      have hk : ∀ k, ¬ p.UnknownKey k := fun k h => hk ⟨k, h⟩
      by_cases hi : ∃ i, p.BrokenIndex i
      · obtain ⟨i, hleast⟩ := p.indexTable.exists_least
          (fun _ h => contains_indexTable.mpr h.1) hi
        by_cases hserver : p.textAt ("server_" ++ i) = ""
        · exact ⟨_, .noServer hk hleast hserver⟩
        · exact ⟨_, .noLogin hk hleast hserver⟩
      have hi : ∀ i, ¬ p.BrokenIndex i := fun i h => hi ⟨i, h⟩
      have hp := indicesNameServers_of_not_broken hi
      by_cases hs : ∃ s, p.FaultyServer s
      · obtain ⟨s, hleast⟩ := p.mergedTable.exists_least
          (fun s ⟨c, hc, _⟩ => Table.contains_iff.mpr ⟨c, (mergedTable_get? hp).mpr hc⟩) hs
        exact ⟨_, .faultyServer hk hi hleast⟩
      have hs : ∀ s, ¬ p.FaultyServer s := fun s h => hs ⟨s, h⟩
      exact ⟨_, .table ⟨hempty, hk, hi, hs⟩ fun s c => mergedTable_get? hp⟩

theorem outcome_parse (p : SecretPayload) : p.Outcome p.parse := by
  obtain ⟨r, hr⟩ := p.exists_outcome
  exact hr.parse_eq ▸ hr

theorem outcome_of_parse_eq {r : Except ParseError CredentialTable} (h : p.parse = r) :
    p.Outcome r :=
  h ▸ p.outcome_parse

theorem faultless_of_parse {T : CredentialTable} (h : p.parse = .ok T) : p.Faultless := by
  cases outcome_of_parse_eq h with
  | table hfaultless _ => exact hfaultless

theorem get?_of_parse {T : CredentialTable} (h : p.parse = .ok T) {s : String} {c : Credential} :
    T.get? s = some c ↔ p.Holds s c := by
  cases outcome_of_parse_eq h with
  | table _ hT => exact hT s c

/-- A faultless payload names a server. -/
theorem Faultless.exists_names (h : p.Faultless) : ∃ s, p.Names s := by
  obtain ⟨k, hk⟩ := Table.isEmpty_eq_false_iff.mp h.nonempty
  obtain ⟨key, hkey⟩ := Option.ne_none_iff_exists'.mp fun hnone => h.known k ⟨hk, hnone⟩
  cases key with
  | legacy s f => exact ⟨s, .inl ⟨k, f, hk, hkey⟩⟩
  | indexed i f => exact ⟨_, .inr ⟨i, ⟨k, f, hk, hkey⟩, rfl⟩⟩

/-- A table that was read has an entry. -/
theorem isEmpty_of_parse {T : CredentialTable} (h : p.parse = .ok T) : T.isEmpty = false := by
  obtain ⟨s, hs⟩ := (faultless_of_parse h).exists_names
  obtain ⟨c, hc⟩ := exists_holds hs
  exact Table.isEmpty_eq_false_iff.mpr ⟨s, Table.contains_iff.mpr ⟨c, (get?_of_parse h).mpr hc⟩⟩

/-- The servers of a table that was read are those the payload names, and each
has the one credential that the payload gives it. -/
theorem parse_ok_contents {T : CredentialTable} (h : p.parse = .ok T) :
    (∀ s, T.contains s = true ↔ p.Names s) ∧ ∀ s c, T.get? s = some c ↔ p.Holds s c := by
  refine ⟨fun s => ?_, fun s c => get?_of_parse h⟩
  rw [Table.contains_iff]
  constructor
  · rintro ⟨c, hc⟩
    exact ((get?_of_parse h).mp hc).named
  · intro hs
    obtain ⟨c, hc⟩ := exists_holds hs
    exact ⟨c, (get?_of_parse h).mpr hc⟩

/-- A payload that names `a` in both ways and by two indices. -/
def overlapping : SecretPayload :=
  ofTexts [("a.username", "legacy"), ("a.vc-session-manager-url", "https://a/"),
    ("a.vc-session-manager-token", "token\n"), ("b.username", "ub"), ("b.password", "pb"),
    ("server_1", "a\n"), ("username_1", "first"), ("password_1", "p1"),
    ("server_2", "a"), ("username_2", "second"), ("password_2", "p2")]

/-- The second index wins, and the legacy keys give the session manager. -/
theorem parse_ok_contents_overlapping :
    overlapping.parse = .ok (Table.ofList
      [("a", ⟨"second", "p2", "https://a/", "token"⟩), ("b", ⟨"ub", "pb", "", ""⟩)]) ∧
    overlapping.Holds "a" ⟨"second", "p2", "https://a/", "token"⟩ := by
  have h : overlapping.parse = .ok (Table.ofList
      [("a", ⟨"second", "p2", "https://a/", "token"⟩), ("b", ⟨"ub", "pb", "", ""⟩)]) :=
    toOption_eq_some_iff.mp (by decide +kernel)
  exact ⟨h, ((parse_ok_contents h).2 _ _).mp (by decide +kernel)⟩

/-- Reading answers the verdict, and it succeeds exactly on faultless payloads. -/
theorem parse_eq_iff_outcome (p : SecretPayload) :
    (∀ r, p.parse = r ↔ p.Outcome r) ∧ ((∃ T, p.parse = .ok T) ↔ p.Faultless) := by
  refine ⟨fun r => ⟨outcome_of_parse_eq, Outcome.parse_eq⟩, ?_, fun h => ?_⟩
  · rintro ⟨T, hT⟩
    exact faultless_of_parse hT
  · exact ⟨p.mergedTable, parse_of_faultless h⟩

end SecretPayload

end VcenterAccess
