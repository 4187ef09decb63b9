import VcenterAccess.Proofs.CloudConfig.Verdict

/-!
# What a vCenter inherits

A configuration that is resolved gives exactly the vCenters that inherit from
their own entry and from the settings of all vCenters (`mem_of_resolve`).  So
none of them depends on the entries of the others.

A file is read only for an entry that is verified against it
(`resolve_of_readsAlike`).  Verification is off only where the flag says so, for
the entry or, if the entry leaves it out, for all vCenters
(`Anchor.eq_insecure_iff`).
-/

namespace VcenterAccess

namespace VirtualCenterConfig

variable {readFile other : FileReader} {global : VirtualCenterSettings} {label : String}
  {entry : VirtualCenterConfig} {v : ResolvedVirtualCenter}

/-! ## The files that are read -/

/-- The two readers agree on the file of an entry, if it is verified against one. -/
def ReadsAlike (readFile other : FileReader) (global : VirtualCenterSettings)
    (entry : VirtualCenterConfig) : Prop :=
  ∀ path, ¬ entry.Unverified global → entry.effective global (·.caFile) = some path →
    other path = readFile path

/-- No other file is read for an entry. -/
theorem ReadsAlike.trustAnchor_eq (h : entry.ReadsAlike readFile other global) :
    (entry.toVirtualCenterSettings.inherit global).trustAnchor other label =
      (entry.toVirtualCenterSettings.inherit global).trustAnchor readFile label := by
  by_cases hverified : entry.Unverified global
  · rw [trustAnchor_of_unverified hverified, trustAnchor_of_unverified hverified]
  unfold VirtualCenterSettings.trustAnchor
  cases hpath : (entry.toVirtualCenterSettings.inherit global).caFile with
  | none =>
      cases (entry.toVirtualCenterSettings.inherit global).thumbprint.filter fun t => !t.isEmpty
      · rfl
      · rfl
  | some path =>
      have hread : other path = readFile path := h path hverified hpath
      cases (entry.toVirtualCenterSettings.inherit global).thumbprint.filter fun t => !t.isEmpty
      · simp only [hread]
      · rfl

theorem ReadsAlike.resolveEntry_eq (h : entry.ReadsAlike readFile other global) :
    CloudConfig.resolveEntry other global label entry =
      CloudConfig.resolveEntry readFile global label entry := by
  unfold CloudConfig.resolveEntry
  simp only [h.trustAnchor_eq]

/-! ## Trust anchors -/

/-- What counts for an entry is its own if it is set, and else that for all vCenters. -/
theorem effective_eq_some_iff {α : Type} {setting : VirtualCenterSettings → Option α} {a : α} :
    entry.effective global setting = some a ↔
      setting entry.toVirtualCenterSettings = some a ∨
        setting entry.toVirtualCenterSettings = none ∧ setting global = some a :=
  Option.or_eq_some_iff

theorem Anchor.eq_insecure_iff {a : TrustAnchor} (h : entry.Anchor readFile global a) :
    a = .insecure ↔ entry.Unverified global := by
  cases h with
  | insecure hunverified => exact ⟨fun _ => hunverified, fun _ => rfl⟩
  | caBundle hverified _ _ | thumbprint hverified _ _ | systemRoots hverified _ _ =>
      exact ⟨fun heq => (nomatch heq), fun hunverified => absurd hunverified hverified⟩

theorem Anchor.hasThumbprint {digest : String}
    (h : entry.Anchor readFile global (.thumbprint digest)) :
    entry.HasThumbprint global digest := by
  cases h with
  | thumbprint _ _ hdigest => exact hdigest

end VirtualCenterConfig

namespace CloudConfig

open VirtualCenterConfig

variable {readFile other : FileReader} {c : CloudConfig} {vs : List ResolvedVirtualCenter}
  {v : ResolvedVirtualCenter} {label : String} {entry : VirtualCenterConfig}

theorem resolveEntries_of_readsAlike {global : VirtualCenterSettings}
    {entries : List (String × VirtualCenterConfig)}
    (h : ∀ e ∈ entries, e.2.ReadsAlike readFile other global)
    (earlier : List ResolvedVirtualCenter) :
    resolveEntries other global earlier entries =
      resolveEntries readFile global earlier entries := by
  induction entries generalizing earlier with
  | nil => rfl
  | cons e entries ih =>
      have hrest := ih fun e' he' => h e' (List.mem_cons_of_mem _ he')
      simp only [resolveEntries, (h e (List.mem_cons_self ..)).resolveEntry_eq, hrest]

/-- No other file is read for a configuration. -/
theorem resolve_of_readsAlike
    (h : ∀ label entry, c.virtualCenters.get? label = some entry →
      entry.ReadsAlike readFile other c.global) :
    c.resolve other = c.resolve readFile := by
  unfold resolve
  rw [resolveEntries_of_readsAlike (Table.forall_get?_iff.mp h)]

/-- Every entry is resolved to a vCenter that inherits. -/
theorem exists_inherits_of_resolve (h : c.resolve readFile = .ok vs)
    (hentry : c.virtualCenters.get? label = some entry) :
    ∃ v ∈ vs, entry.Inherits readFile c.global label v := by
  obtain ⟨-, -, hresolved, -⟩ := resolved_of_resolve h
  obtain ⟨v, hv, hinherits⟩ :=
    exists_of_forall₂_of_mem hresolved.inherits (Table.get?_eq_some_iff.mp hentry)
  exact ⟨v, hv, hinherits⟩

/-- A configuration is resolved to the vCenters that inherit. -/
theorem mem_of_resolve (h : c.resolve readFile = .ok vs) :
    v ∈ vs ↔ ∃ entry, c.virtualCenters.get? v.label = some entry ∧
      entry.Inherits readFile c.global v.label v := by
  constructor
  · intro hv
    obtain ⟨-, -, hresolved, -⟩ := resolved_of_resolve h
    obtain ⟨⟨label, entry⟩, hmem, hinherits⟩ :=
      exists_of_forall₂_of_mem hresolved.inherits.flip hv
    obtain rfl : v.label = label := hinherits.labelled
    exact ⟨entry, Table.get?_eq_some_iff.mpr hmem, hinherits⟩
  · rintro ⟨entry, hentry, hinherits⟩
    obtain ⟨w, hw, hinherits'⟩ := exists_inherits_of_resolve h hentry
    exact hinherits.unique hinherits' ▸ hw

theorem inherits_of_mem (h : c.resolve readFile = .ok vs) (hv : v ∈ vs)
    (hentry : c.virtualCenters.get? v.label = some entry) :
    entry.Inherits readFile c.global v.label v := by
  obtain ⟨entry', hentry', hinherits⟩ := (mem_of_resolve h).mp hv
  obtain rfl := Option.some.inj (hentry.symm.trans hentry')
  exact hinherits

/-- A label has one vCenter. -/
theorem exists_unique_of_label (h : c.resolve readFile = .ok vs)
    (hlabel : c.virtualCenters.contains label = true) :
    ∃ v ∈ vs, v.label = label ∧ ∀ w ∈ vs, w.label = label → w = v := by
  obtain ⟨entry, hentry⟩ := Table.contains_iff.mp hlabel
  obtain ⟨v, hv, hinherits⟩ := exists_inherits_of_resolve h hentry
  refine ⟨v, hv, hinherits.labelled, fun w hw hlabelled => ?_⟩
  subst hlabelled
  exact (inherits_of_mem h hw hentry).unique hinherits

/-- Where nothing is verified, no file is read. -/
theorem resolveEntry_of_insecure (h : c.resolve readFile = .ok vs) (hv : v ∈ vs)
    (hentry : c.virtualCenters.get? v.label = some entry)
    (hinsecure : v.options.trustAnchor = .insecure) (other : FileReader) :
    resolveEntry other c.global v.label entry = .ok v := by
  have hinherits := inherits_of_mem h hv hentry
  have hunverified := hinherits.anchor.eq_insecure_iff.mp hinsecure
  have hother : entry.ReadsAlike readFile other c.global :=
    fun path hverified _ => absurd hunverified hverified
  obtain ⟨-, hfaultless, -⟩ := resolved_of_resolve h
  rw [hother.resolveEntry_eq, resolveEntry_eq_ok_iff]
  exact ⟨fun e he => hfaultless _ ⟨e, .own hentry he⟩, hinherits⟩

/-- A configuration that is resolved gives the vCenters that inherit, one for each entry.
Verification is off exactly if the flag says so, and then no file is read.  A thumbprint is never
empty, and an entry that sets one, be it empty, hides that of all vCenters.  Only the files of
entries that are verified against one count, and only the entry of its label counts for a
vCenter. -/
theorem resolve_inherits (h : c.resolve readFile = .ok vs) :
    (∀ v, v ∈ vs ↔ ∃ entry, c.virtualCenters.get? v.label = some entry ∧
      entry.Inherits readFile c.global v.label v) ∧
    (∀ label, c.virtualCenters.contains label = true →
      ∃ v ∈ vs, v.label = label ∧ ∀ w ∈ vs, w.label = label → w = v) ∧
    (∀ v ∈ vs, ∀ entry, c.virtualCenters.get? v.label = some entry →
      (v.options.trustAnchor = .insecure ↔ entry.insecureFlag = some true ∨
        entry.insecureFlag = none ∧ c.global.insecureFlag = some true) ∧
      (v.options.trustAnchor = .insecure →
        ∀ other, resolveEntry other c.global v.label entry = .ok v) ∧
      ∀ digest, v.options.trustAnchor = .thumbprint digest → digest ≠ "" ∧
        (entry.thumbprint = some digest ∨
          entry.thumbprint = none ∧ c.global.thumbprint = some digest)) ∧
    (∀ other, (∀ label entry, c.virtualCenters.get? label = some entry →
      entry.ReadsAlike readFile other c.global) → c.resolve other = .ok vs) ∧
    ∀ (c' : CloudConfig) (vs' : List ResolvedVirtualCenter), c'.global = c.global →
      c'.resolve readFile = .ok vs' →
      ∀ v, c'.virtualCenters.get? v.label = c.virtualCenters.get? v.label → (v ∈ vs' ↔ v ∈ vs) := by
  refine ⟨fun v => mem_of_resolve h, fun _ => exists_unique_of_label h, fun v hv entry hentry => ?_,
    fun other hother => ?_, fun c' vs' hglobal h' v hentry => ?_⟩
  · have hinherits := inherits_of_mem h hv hentry
    refine ⟨hinherits.anchor.eq_insecure_iff.trans effective_eq_some_iff,
      resolveEntry_of_insecure h hv hentry, fun digest hdigest => ?_⟩
    obtain ⟨heffective, hne⟩ := Anchor.hasThumbprint (hdigest ▸ hinherits.anchor)
    exact ⟨hne, effective_eq_some_iff.mp heffective⟩
  · rw [resolve_of_readsAlike hother, h]
  · rw [mem_of_resolve h, mem_of_resolve h', hglobal, hentry]

/-- Four entries that are verified in four ways, and a file that only one of them needs. -/
def mixed : CloudConfig where
  global := { thumbprint := some "AA:BB", user := some "admin", password := some "secret" }
  virtualCenters := Table.ofList
    [("a", { insecureFlag := some true, caFile := some "gone.pem" }),
      ("b", { server := "vc.example", port := some 8443, thumbprint := some "",
              caFile := some "ca.pem" }),
      ("c", { user := some "operator" }),
      ("d", { thumbprint := some "", secretName := some "login", secretNamespace := some "ops" })]

/-- The reader that finds `ca.pem` only. -/
def onlyCa : FileReader := fun path => if path = "ca.pem" then .ok "PEM" else .error .notFound

theorem resolve_inherits_mixed :
    ∃ vs, mixed.resolve onlyCa = .ok vs ∧
      vs.map (·.options.trustAnchor) =
        [.insecure, .caBundle "PEM", .thumbprint "AA:BB", .systemRoots] ∧
      ∀ v ∈ vs, ∃ entry, mixed.virtualCenters.get? v.label = some entry ∧
        entry.Inherits onlyCa mixed.global v.label v := by
  have h : mixed.resolve onlyCa = .ok
      [⟨"a", ⟨"a", 443, .insecure, none⟩, { username := "admin", password := "secret" }, none, []⟩,
        ⟨"b", ⟨"vc.example", 8443, .caBundle "PEM", none⟩,
          { username := "admin", password := "secret" }, none, []⟩,
        ⟨"c", ⟨"c", 443, .thumbprint "AA:BB", none⟩,
          { username := "operator", password := "secret" }, none, []⟩,
        ⟨"d", ⟨"d", 443, .systemRoots, none⟩, { username := "admin", password := "secret" },
          some ⟨"ops", "login"⟩, []⟩] := by decide
  exact ⟨_, h, rfl, fun v => ((resolve_inherits h).1 v).mp⟩

end CloudConfig

end VcenterAccess
