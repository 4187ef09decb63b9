import VcenterAccess.Proofs.Secret.Gathering

/-!
# The merged table

The logins of the indices are put over the legacy credentials, by increasing
index, so of several indices for one server the greatest one counts.  The session
manager of a server comes from its legacy keys alone.

`Holds` says of a payload, a server and a credential that the payload gives the
server this credential.  It does not mention how the values are gathered.
`mergedTable_get?` says that the merged table holds exactly these credentials.
-/

namespace VcenterAccess

open Text

namespace SecretPayload

/-- The index is there and its server is `s`. -/
def IndexFor (p : SecretPayload) (s i : String) : Prop :=
  p.HasIndex i ∧ p.textAt ("server_" ++ i) = s

/-- Some key or some index is about the server. -/
def Names (p : SecretPayload) (s : String) : Prop := p.HasLegacy s ∨ ∃ i, p.IndexFor s i

/-- The payload gives the server `s` the credential `c`. -/
structure Holds (p : SecretPayload) (s : String) (c : Credential) : Prop where
  named : p.Names s
  /-- The session manager is that of the legacy keys. -/
  url : c.sessionManagerUrl = p.textAt (s ++ ".vc-session-manager-url")
  token : c.sessionManagerToken = p.textAt (s ++ ".vc-session-manager-token")
  /-- The login is that of the greatest index for the server. -/
  indexed : ∀ i, Greatest (p.IndexFor s) i →
    c.user = p.textAt ("username_" ++ i) ∧ c.password = p.textAt ("password_" ++ i)
  /-- Without an index the login is that of the legacy keys. -/
  legacy : (∀ i, ¬ p.IndexFor s i) →
    c.user = p.textAt (s ++ ".username") ∧ c.password = p.textAt (s ++ ".password")

/-- Every index of the payload is about a server. -/
def IndicesNameServers (p : SecretPayload) : Prop :=
  ∀ i, p.HasIndex i → p.textAt ("server_" ++ i) ≠ ""

/-- The indexed logins over the legacy credentials. -/
def mergedTable (p : SecretPayload) : CredentialTable :=
  p.indexTable.toList.foldl (fun table entry => overlay table entry.2) p.legacyTable

/-! ## Putting logins over a table -/

section

variable {s : String} {l : List (String × IndexedCredential)} {t : CredentialTable}

theorem get?_overlay (t : CredentialTable) (c : IndexedCredential) (s : String) :
    (overlay t c).get? s = if s = c.server then
      some { t.getD s {} with user := c.username, password := c.password } else t.get? s := by
  unfold overlay
  rw [Table.get?_modify]
  by_cases h : s = c.server
  · rw [if_pos h, if_pos h, h]
  · rw [if_neg h, if_neg h]

/-- Logins of other servers leave a server alone. -/
theorem get?_overlays_of_ne (h : ∀ e ∈ l, e.2.server ≠ s) :
    (l.foldl (fun table entry => overlay table entry.2) t).get? s = t.get? s := by
  induction l generalizing t with
  | nil => rfl
  | cons e l ih =>
      have hne : s ≠ e.2.server := (h e (List.mem_cons_self ..)).symm
      rw [List.foldl_cons, ih fun e' he' => h e' (List.mem_cons_of_mem _ he'), get?_overlay,
        if_neg hne]

/-- Logins change nothing but logins. -/
theorem getD_overlays (s u w : String) (l : List (String × IndexedCredential))
    (t : CredentialTable) :
    { (l.foldl (fun table entry => overlay table entry.2) t).getD s {} with
        user := u, password := w }
      = { t.getD s {} with user := u, password := w } := by
  induction l generalizing t with
  | nil => rfl
  | cons e l ih =>
      rw [List.foldl_cons, ih]
      unfold Table.getD
      rw [get?_overlay]
      by_cases h : s = e.2.server
      · rw [if_pos h]
        rfl
      · rw [if_neg h]

/-- The last login of a server is the one it gets. -/
theorem get?_overlays_of_last (hl : Ordered l) {i : String} {c : IndexedCredential}
    (hmem : (i, c) ∈ l) (hs : c.server = s) (hlast : ∀ e ∈ l, e.2.server = s → e.1 ≤ i) :
    (l.foldl (fun table entry => overlay table entry.2) t).get? s =
      some { t.getD s {} with user := c.username, password := c.password } := by
  obtain ⟨before, after, rfl, -, hafter⟩ := hl.cut hmem
  have hne : ∀ e ∈ after, e.2.server ≠ s := fun e he heq =>
    hlast e (List.mem_append_right _ (List.mem_cons_of_mem _ he)) heq (hafter e he)
  rw [List.foldl_append, List.foldl_cons, get?_overlays_of_ne hne, get?_overlay, if_pos hs.symm]
  exact congrArg some (getD_overlays s _ _ before t)

end

/-! ## The credentials of the merged table -/

variable {p : SecretPayload} {s : String} {c : Credential}

theorem contains_indexTable {i : String} : p.indexTable.contains i = true ↔ p.HasIndex i := by
  rw [Table.contains_iff]
  constructor
  · rintro ⟨c, hc⟩
    exact (indexTable_get?.mp hc).1
  · exact fun h => ⟨_, indexTable_get?.mpr ⟨h, rfl⟩⟩

/-- Of the indices for a server there is a greatest one. -/
theorem exists_greatest_indexFor (h : ∃ i, p.IndexFor s i) : ∃ i, Greatest (p.IndexFor s) i :=
  p.indexTable.exists_greatest (fun _ hi => contains_indexTable.mpr hi.1) h

theorem hasLegacy_ne_empty (h : p.HasLegacy s) : s ≠ "" := by
  obtain ⟨k, f, -, hk⟩ := h
  exact (SecretKey.classify?_eq_legacy_iff.mp hk).1

theorem names_ne_empty (hp : p.IndicesNameServers) (h : p.Names s) : s ≠ "" := by
  rcases h with h | ⟨i, hi, hs⟩
  · exact hasLegacy_ne_empty h
  · exact hs ▸ hp i hi

/-- A server without legacy keys has no legacy values. -/
theorem textAt_of_not_hasLegacy (hs : s ≠ "") (h : ¬ p.HasLegacy s) (f : LegacyField) :
    p.textAt (s ++ f.suffix) = "" := by
  unfold textAt
  cases hget : p.get? (s ++ f.suffix) with
  | none => rfl
  | some bytes =>
      refine absurd ⟨s ++ f.suffix, f, Table.contains_iff.mpr ⟨bytes, hget⟩, ?_⟩ h
      exact SecretKey.classify?_eq_legacy_iff.mpr ⟨hs, rfl⟩

theorem legacyTable_getD (hs : s ≠ "") : p.legacyTable.getD s {} = p.legacyAt s := by
  unfold Table.getD
  cases hget : p.legacyTable.get? s with
  | some c => exact (legacyTable_get?.mp hget).2
  | none =>
      have hnot : ¬ p.HasLegacy s := fun h => by
        rw [legacyTable_get?.mpr ⟨h, rfl⟩] at hget
        cases hget
      refine Credential.ext_field fun f => Eq.symm ?_
      have htext := textAt_of_not_hasLegacy hs hnot f
      cases f <;> exact htext

theorem mergedTable_get?_of_no_index (h : ∀ i, ¬ p.IndexFor s i) :
    p.mergedTable.get? s = p.legacyTable.get? s := by
  refine get?_overlays_of_ne fun e he hs => ?_
  obtain ⟨hi, hc⟩ := indexTable_get?.mp (Table.get?_eq_some_iff.mpr he)
  exact h e.1 ⟨hi, by rw [← hs, hc]; rfl⟩

theorem mergedTable_get?_of_index {i : String} (hs : s ≠ "") (h : Greatest (p.IndexFor s) i) :
    p.mergedTable.get? s = some { p.legacyAt s with
      user := p.textAt ("username_" ++ i), password := p.textAt ("password_" ++ i) } := by
  obtain ⟨hi, hserver⟩ := h.holds
  have hmem : (i, p.indexedAt i) ∈ p.indexTable.toList :=
    Table.get?_eq_some_iff.mp (indexTable_get?.mpr ⟨hi, rfl⟩)
  rw [← legacyTable_getD hs]
  refine get?_overlays_of_last p.indexTable.ordered hmem hserver fun e he hes => ?_
  obtain ⟨hj, hc⟩ := indexTable_get?.mp (Table.get?_eq_some_iff.mpr he)
  exact h.le ⟨hj, by rw [← hes, hc]; rfl⟩

/-- A credential that the payload gives differs from the legacy values in the login only. -/
theorem Holds.eq_of_login (hc : p.Holds s c) {user password : String}
    (hlogin : c.user = user ∧ c.password = password) :
    c = { p.legacyAt s with user, password } := by
  obtain ⟨rfl, rfl⟩ := hlogin
  refine Credential.ext_field fun f => ?_
  cases f with
  | username => rfl
  | password => rfl
  | sessionManagerUrl => exact hc.url
  | sessionManagerToken => exact hc.token

theorem holds_iff_of_no_index (h : ∀ i, ¬ p.IndexFor s i) :
    p.Holds s c ↔ p.HasLegacy s ∧ c = p.legacyAt s := by
  constructor
  · intro hc
    exact ⟨hc.named.resolve_right fun ⟨i, hi⟩ => h i hi, hc.eq_of_login (hc.legacy h)⟩
  · rintro ⟨hlegacy, rfl⟩
    exact ⟨.inl hlegacy, rfl, rfl, fun i hi => absurd hi.holds (h i), fun _ => ⟨rfl, rfl⟩⟩

theorem holds_iff_of_index {i : String} (h : Greatest (p.IndexFor s) i) :
    p.Holds s c ↔ c = { p.legacyAt s with
      user := p.textAt ("username_" ++ i), password := p.textAt ("password_" ++ i) } := by
  constructor
  · intro hc
    exact hc.eq_of_login (hc.indexed i h)
  · rintro rfl
    refine ⟨.inr ⟨i, h.holds⟩, rfl, rfl, fun j hj => ?_, fun hnone => absurd h.holds (hnone i)⟩
    rw [hj.unique h]
    exact ⟨rfl, rfl⟩

/-- The merged table holds what the payload gives. -/
theorem mergedTable_get? (hp : p.IndicesNameServers) :
    p.mergedTable.get? s = some c ↔ p.Holds s c := by
  by_cases hindex : ∃ i, p.IndexFor s i
  · obtain ⟨i, hi⟩ := exists_greatest_indexFor hindex
    rw [holds_iff_of_index hi, mergedTable_get?_of_index (names_ne_empty hp (.inr hindex)) hi,
      Option.some.injEq, eq_comm]
  · have hnone : ∀ i, ¬ p.IndexFor s i := fun i hi => hindex ⟨i, hi⟩
    rw [holds_iff_of_no_index hnone, mergedTable_get?_of_no_index hnone, legacyTable_get?]

/-- A named server gets a credential. -/
theorem exists_holds (h : p.Names s) : ∃ c, p.Holds s c := by
  by_cases hindex : ∃ i, p.IndexFor s i
  · obtain ⟨i, hi⟩ := exists_greatest_indexFor hindex
    exact ⟨_, (holds_iff_of_index hi).mpr rfl⟩
  · have hnone : ∀ i, ¬ p.IndexFor s i := fun i hi => hindex ⟨i, hi⟩
    exact ⟨_, (holds_iff_of_no_index hnone).mpr ⟨h.resolve_right hindex, rfl⟩⟩

end SecretPayload

end VcenterAccess
