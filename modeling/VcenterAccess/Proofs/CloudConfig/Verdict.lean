import Mathlib.Data.List.Nodup
import VcenterAccess.Proofs.CloudConfig.Entry
import VcenterAccess.Proofs.Table.Walk
import VcenterAccess.Proofs.Text.Validity

/-!
# What comes of resolving a configuration

A configuration without entries is refused.  Otherwise its entries are resolved by
label, and the fault of the least faulty label is the answer.  The fault of an
entry is the first one of its own or else that an entry before it names its
server.

`Verdict` says this of the configuration alone, without the vCenters that are
carried along.  Each of its cases is what `resolve` answers
(`Verdict.resolve_eq`), and one of them always applies (`exists_verdict`).  Both
rest on `resolveEntries_append`: entries that are resolved, to vCenters with
different servers, are all that the entries after them are compared with.
-/

namespace VcenterAccess

open Text

namespace CloudConfig

open VirtualCenterConfig

/-! ## Faults -/

section

variable (readFile : FileReader) (c : CloudConfig)

/-- The entry of `first` comes before `label`, byte by byte, and names the server. -/
def NamedBefore (label server first : String) : Prop :=
  Utf8.ofText first < Utf8.ofText label ∧
    ∃ entry, c.virtualCenters.get? first = some entry ∧ entry.serverOr first = server

/-- The fault of the entry of a label: the first one of its own, or else that its server is
named before. -/
inductive Fault (label : String) : ConfigError → Prop where
  | own {entry : VirtualCenterConfig} {e : ConfigError} :
      c.virtualCenters.get? label = some entry → entry.OwnFault readFile c.global label e →
      Fault label e
  | duplicate {entry : VirtualCenterConfig} {first : String} :
      c.virtualCenters.get? label = some entry →
      (∀ e, ¬ entry.OwnFault readFile c.global label e) →
      c.NamedBefore label (entry.serverOr label) first →
      Fault label (.duplicateServer (entry.serverOr label) first label)

/-- The entry of the label has a fault. -/
def Faulty (label : String) : Prop := ∃ e, c.Fault readFile label e

/-- The verdict on a configuration: its first fault, or one vCenter for each entry. -/
inductive Verdict : Except ConfigError (List ResolvedVirtualCenter) → Prop where
  /-- There is no entry. -/
  | nothing : c.virtualCenters.isEmpty = true → Verdict (.error .noVirtualCenter)
  /-- An entry has a fault, and no entry before it has one. -/
  | fault {label : String} {e : ConfigError} : Least (c.Faulty readFile) label →
      c.Fault readFile label e → Verdict (.error e)
  /-- Nothing is wrong. -/
  | resolved {vs : List ResolvedVirtualCenter} : c.virtualCenters.isEmpty = false →
      (∀ label, ¬ c.Faulty readFile label) →
      List.Forall₂ (fun e v => e.2.Inherits readFile c.global e.1 v) c.virtualCenters.toList vs →
      Verdict (.ok vs)

end

variable {readFile : FileReader} {global : VirtualCenterSettings} {c : CloudConfig}
  {label server first : String} {entry : VirtualCenterConfig}

theorem Faulty.contains (h : c.Faulty readFile label) : c.virtualCenters.contains label = true := by
  obtain ⟨e, he⟩ := h
  cases he with
  | own hentry _ => exact Table.contains_iff.mpr ⟨_, hentry⟩
  | duplicate hentry _ _ => exact Table.contains_iff.mpr ⟨_, hentry⟩

/-- An entry whose server is named before has a fault, its own one or this. -/
theorem NamedBefore.faulty (hentry : c.virtualCenters.get? label = some entry)
    (h : c.NamedBefore label (entry.serverOr label) first) : c.Faulty readFile label := by
  by_cases hown : ∃ e, entry.OwnFault readFile c.global label e
  · obtain ⟨e, he⟩ := hown
    exact ⟨e, .own hentry he⟩
  · exact ⟨_, .duplicate hentry (fun e he => hown ⟨e, he⟩) h⟩

/-- Of two entries that name a server the later one has a fault. -/
theorem NamedBefore.faulty_of_lt {second : String} (hfirst : c.NamedBefore label server first)
    (hsecond : c.NamedBefore label server second) (hlt : first < second) :
    c.Faulty readFile second := by
  obtain ⟨-, entry, hentry, rfl⟩ := hsecond
  exact NamedBefore.faulty hentry ⟨Utf8.ofText_lt_iff.mpr hlt, hfirst.2⟩

/-- Before the first fault a server is named once. -/
theorem NamedBefore.unique (hleast : Least (c.Faulty readFile) label)
    (hfirst : c.NamedBefore label server first) {second : String}
    (hsecond : c.NamedBefore label server second) : first = second := by
  by_contra hne
  rcases Decidable.em (first < second) with hlt | hnlt
  · exact hleast.le (hfirst.faulty_of_lt hsecond hlt) (Utf8.ofText_lt_iff.mp hsecond.1)
  · exact hleast.le (hsecond.faulty_of_lt hfirst (lt_of_not_lt_of_ne hnlt hne))
      (Utf8.ofText_lt_iff.mp hfirst.1)

/-- A duplicate is reported for the second entry, after one that names the server. -/
theorem Fault.namedBefore {second : String}
    (h : c.Fault readFile label (.duplicateServer server first second)) :
    label = second ∧ c.NamedBefore second server first := by
  cases h with
  | own _ hown => cases hown
  | duplicate _ _ hnamed => exact ⟨rfl, hnamed⟩

/-! ## Entries one after the other -/

theorem labelOf?_eq_none_iff {earlier : List ResolvedVirtualCenter} :
    labelOf? server earlier = none ↔ server ∉ earlier.map (·.options.hostname) := by
  unfold labelOf?
  simp only [Option.map_eq_none_iff, List.find?_eq_none, decide_eq_true_eq, List.mem_map,
    not_exists, not_and]

/-- Among vCenters with different servers each is found by its server. -/
theorem labelOf?_eq_some {earlier : List ResolvedVirtualCenter} {v : ResolvedVirtualCenter}
    (h : (earlier.map (·.options.hostname)).Nodup) (hv : v ∈ earlier) :
    labelOf? v.options.hostname earlier = some v.label := by
  unfold labelOf?
  cases hfind : earlier.find? fun w => w.options.hostname = v.options.hostname with
  | none => exact absurd (decide_eq_true rfl) (List.find?_eq_none.mp hfind v hv)
  | some w =>
      have hw := List.find?_some hfind
      rw [decide_eq_true_eq] at hw
      rw [List.inj_on_of_nodup_map h (List.mem_of_find?_eq_some hfind) hv hw]
      rfl

section

variable {earlier vs : List ResolvedVirtualCenter} {v : ResolvedVirtualCenter}
  {before rest : List (String × VirtualCenterConfig)}

/-- A fault of the first entry is the answer. -/
theorem resolveEntries_of_error {e : ConfigError}
    (h : resolveEntry readFile global label entry = .error e) :
    resolveEntries readFile global earlier ((label, entry) :: rest) = .error e := by
  rw [resolveEntries, h]
  rfl

/-- A server that is named before is the answer. -/
theorem resolveEntries_of_named (hv : resolveEntry readFile global label entry = .ok v)
    (hnamed : labelOf? v.options.hostname earlier = some first) :
    resolveEntries readFile global earlier ((label, entry) :: rest) =
      .error (.duplicateServer v.options.hostname first label) := by
  rw [resolveEntries, hv]
  simp only [bind, Except.bind, hnamed]
  rfl

/-- A server that is new is carried along. -/
theorem resolveEntries_of_new (hv : resolveEntry readFile global label entry = .ok v)
    (hnew : labelOf? v.options.hostname earlier = none) :
    resolveEntries readFile global earlier ((label, entry) :: rest) =
      (resolveEntries readFile global (v :: earlier) rest).map (v :: ·) := by
  rw [resolveEntries, hv]
  simp only [bind, Except.bind, hnew]
  cases resolveEntries readFile global (v :: earlier) rest <;> rfl

/-- The entries are resolved to the vCenters, each for itself. -/
abbrev Resolved (readFile : FileReader) (global : VirtualCenterSettings) :
    List (String × VirtualCenterConfig) → List ResolvedVirtualCenter → Prop :=
  List.Forall₂ fun e v => resolveEntry readFile global e.1 e.2 = .ok v

/-- After entries that are resolved, the others are compared with what came of them. -/
theorem resolveEntries_append (h : Resolved readFile global before vs)
    (hnodup : ((vs.reverse ++ earlier).map (·.options.hostname)).Nodup)
    (after : List (String × VirtualCenterConfig)) :
    resolveEntries readFile global earlier (before ++ after) =
      (resolveEntries readFile global (vs.reverse ++ earlier) after).map (vs ++ ·) := by
  induction h generalizing earlier with
  | nil =>
      rw [List.nil_append, List.reverse_nil, List.nil_append]
      cases resolveEntries readFile global earlier after <;> rfl
  | @cons e v before vs hv hrest ih =>
      rw [List.reverse_cons, List.append_assoc, List.singleton_append] at hnodup ⊢
      have hnew : labelOf? v.options.hostname earlier = none := by
        rw [List.map_append, List.map_cons] at hnodup
        exact labelOf?_eq_none_iff.mpr (List.nodup_cons.mp hnodup.of_append_right).1
      rw [List.cons_append, resolveEntries_of_new hv hnew, ih hnodup]
      cases resolveEntries readFile global (vs.reverse ++ v :: earlier) after <;> rfl

end

variable {vs : List ResolvedVirtualCenter} {before : List (String × VirtualCenterConfig)}

/-- At the start nothing has been resolved. -/
theorem Resolved.resolveEntries_append (h : Resolved readFile global before vs)
    (hnodup : (vs.map (·.options.hostname)).Nodup)
    (after : List (String × VirtualCenterConfig)) :
    resolveEntries readFile global [] (before ++ after) =
      (resolveEntries readFile global vs.reverse after).map (vs ++ ·) := by
  rw [CloudConfig.resolveEntries_append h, List.append_nil]
  rwa [List.append_nil, List.map_reverse, List.nodup_reverse]

/-! ## Entries without a fault -/

theorem Resolved.inherits (h : Resolved readFile global before vs) :
    List.Forall₂ (fun e v => e.2.Inherits readFile global e.1 v) before vs :=
  h.imp fun _ _ hv => (resolveEntry_eq_ok_iff.mp hv).2

theorem Resolved.servers (h : Resolved readFile global before vs) :
    before.map (fun e => e.2.serverOr e.1) = vs.map (·.options.hostname) :=
  map_eq_map_of_forall₂ (h.inherits.imp fun _ _ hv => serverOr_eq.trans hv.hostname.symm)

theorem Resolved.labels (h : Resolved readFile global before vs) :
    before.map Prod.fst = vs.map (·.label) :=
  map_eq_map_of_forall₂ (h.inherits.imp fun _ _ hv => hv.labelled.symm)

/-- Entries without a fault have different servers. -/
theorem nodup_servers (hsub : before.Sublist c.virtualCenters.toList)
    (h : ∀ e ∈ before, ¬ c.Faulty readFile e.1) :
    (before.map fun e => e.2.serverOr e.1).Nodup := by
  refine List.pairwise_map.mpr ((c.virtualCenters.ordered.sublist hsub).imp_of_mem ?_)
  intro first second hfirst hsecond hlt heq
  have hget : ∀ e ∈ before, c.virtualCenters.get? e.1 = some e.2 := fun e he =>
    Table.get?_eq_some_iff.mpr (hsub.subset he)
  exact h second hsecond (NamedBefore.faulty (hget second hsecond)
    ⟨Utf8.ofText_lt_iff.mpr hlt, first.2, hget first hfirst, heq⟩)

/-- Entries without a fault are resolved, to vCenters with different servers. -/
theorem exists_resolved (hsub : before.Sublist c.virtualCenters.toList)
    (h : ∀ e ∈ before, ¬ c.Faulty readFile e.1) :
    ∃ vs, Resolved readFile c.global before vs ∧ (vs.map (·.options.hostname)).Nodup := by
  have hresolve : ∀ e ∈ before, ∃ v, resolveEntry readFile c.global e.1 e.2 = .ok v := by
    intro e he
    have hget := Table.get?_eq_some_iff.mpr (hsub.subset he)
    obtain ⟨v, hv, -⟩ :=
      exists_resolveEntry fun err herr => h e he ⟨err, .own hget herr⟩
    exact ⟨v, hv⟩
  obtain ⟨vs, hvs⟩ : ∃ vs, Resolved readFile c.global before vs := exists_forall₂ hresolve
  exact ⟨vs, hvs, hvs.servers ▸ nodup_servers hsub h⟩

/-! ## The first fault -/

/-- Entries that are resolved have found the label of a server that one of them names. -/
theorem Resolved.labelOf?_eq_some (h : Resolved readFile global before vs)
    (hnodup : (vs.map (·.options.hostname)).Nodup) (hmem : (first, entry) ∈ before) :
    labelOf? (entry.serverOr first) vs.reverse = some first := by
  obtain ⟨v, hv, hresolve⟩ := exists_of_forall₂_of_mem h hmem
  obtain ⟨-, hinherits⟩ := resolveEntry_eq_ok_iff.mp hresolve
  have hserver := serverOr_eq.trans hinherits.hostname.symm
  have hreverse : (vs.reverse.map (·.options.hostname)).Nodup := by
    rwa [List.map_reverse, List.nodup_reverse]
  rw [hserver, CloudConfig.labelOf?_eq_some hreverse (List.mem_reverse.mpr hv), hinherits.labelled]

/-- After entries that are resolved, all that come before a faulty one, its fault is the
answer. -/
theorem resolveEntries_of_fault (h : Resolved readFile c.global before vs)
    (hnodup : (vs.map (·.options.hostname)).Nodup)
    (hbefore : ∀ e ∈ c.virtualCenters.toList, e.1 < label → e ∈ before)
    (hentry : c.virtualCenters.get? label = some entry) {e : ConfigError}
    (he : c.Fault readFile label e) (after : List (String × VirtualCenterConfig)) :
    resolveEntries readFile c.global vs.reverse ((label, entry) :: after) = .error e := by
  cases he with
  | own hentry' hown =>
      obtain rfl := Option.some.inj (hentry.symm.trans hentry')
      exact resolveEntries_of_error (resolveEntry_eq_error_iff.mpr hown)
  | @duplicate _ first hentry' hown hnamed =>
      obtain rfl := Option.some.inj (hentry.symm.trans hentry')
      obtain ⟨v, hv, hinherits⟩ := exists_resolveEntry hown
      have hserver : entry.serverOr label = v.options.hostname :=
        serverOr_eq.trans hinherits.hostname.symm
      rw [hserver] at hnamed ⊢
      obtain ⟨hlt, other, hother, hsame⟩ := hnamed
      have hmem : (first, other) ∈ before :=
        hbefore _ (Table.get?_eq_some_iff.mp hother) (Utf8.ofText_lt_iff.mp hlt)
      exact resolveEntries_of_named hv (hsame ▸ h.labelOf?_eq_some hnodup hmem)

theorem resolve_of_nonempty (h : c.virtualCenters.isEmpty = false) :
    c.resolve readFile = resolveEntries readFile c.global [] c.virtualCenters.toList := by
  unfold resolve
  rw [if_neg (by rw [h]; exact Bool.false_ne_true)]

/-- The fault of the least faulty label is the answer. -/
theorem resolve_of_fault {e : ConfigError} (hleast : Least (c.Faulty readFile) label)
    (he : c.Fault readFile label e) : c.resolve readFile = .error e := by
  have hcontains := hleast.holds.contains
  obtain ⟨entry, hentry⟩ := Table.contains_iff.mp hcontains
  obtain ⟨before, after, hcut, hlt, hgt⟩ :=
    c.virtualCenters.ordered.cut (Table.get?_eq_some_iff.mp hentry)
  have hcut : c.virtualCenters.toList = before ++ (label, entry) :: after := hcut
  have hsub : before.Sublist c.virtualCenters.toList := hcut ▸ List.sublist_append_left ..
  have hfaultless : ∀ e ∈ before, ¬ c.Faulty readFile e.1 :=
    fun e he hfaulty => hleast.le hfaulty (hlt e he)
  have hbefore : ∀ e ∈ c.virtualCenters.toList, e.1 < label → e ∈ before := by
    intro e he hlabel
    rw [hcut, List.mem_append, List.mem_cons] at he
    rcases he with he | rfl | he
    · exact he
    · exact absurd hlabel (String.lt_irrefl label)
    · exact absurd hlabel (String.lt_asymm (hgt e he))
  obtain ⟨vs, hvs, hnodup⟩ := exists_resolved hsub hfaultless
  rw [resolve_of_nonempty (Table.isEmpty_eq_false_iff.mpr ⟨label, hcontains⟩), hcut,
    hvs.resolveEntries_append hnodup, resolveEntries_of_fault hvs hnodup hbefore hentry he]
  rfl

/-- Without a fault there is one vCenter for each entry. -/
theorem exists_resolve (hnonempty : c.virtualCenters.isEmpty = false)
    (h : ∀ label, ¬ c.Faulty readFile label) :
    ∃ vs, c.resolve readFile = .ok vs ∧ Resolved readFile c.global c.virtualCenters.toList vs ∧
      (vs.map (·.options.hostname)).Nodup := by
  obtain ⟨vs, hvs, hnodup⟩ := exists_resolved (List.Sublist.refl _) fun e _ => h e.1
  have hresolve := hvs.resolveEntries_append hnodup []
  rw [List.append_nil] at hresolve
  refine ⟨vs, ?_, hvs, hnodup⟩
  rw [resolve_of_nonempty hnonempty, hresolve]
  exact congrArg Except.ok (List.append_nil vs)

/-! ## The verdict -/

/-- The verdict is what resolving answers. -/
theorem Verdict.resolve_eq {r : Except ConfigError (List ResolvedVirtualCenter)}
    (h : c.Verdict readFile r) : c.resolve readFile = r := by
  cases h with
  | nothing hempty => exact if_pos hempty
  | fault hleast he => exact resolve_of_fault hleast he
  | resolved hnonempty hfaultless hinherits =>
      obtain ⟨vs, hvs, hresolved, -⟩ := exists_resolve hnonempty hfaultless
      have hunique := List.right_unique_forall₂' (fun _ _ _ hv hw => hv.unique hw)
        hresolved.inherits hinherits
      rw [hvs, hunique]

/-- Every configuration has a verdict. -/
theorem exists_verdict (readFile : FileReader) (c : CloudConfig) : ∃ r, c.Verdict readFile r := by
  cases hempty : c.virtualCenters.isEmpty with
  | true => exact ⟨_, .nothing hempty⟩
  | false =>
      by_cases hfaulty : ∃ label, c.Faulty readFile label
      · obtain ⟨label, hleast⟩ := c.virtualCenters.exists_least (fun _ h => h.contains) hfaulty
        obtain ⟨e, he⟩ := hleast.holds
        exact ⟨_, .fault hleast he⟩
      · have hfaultless : ∀ label, ¬ c.Faulty readFile label := fun label h => hfaulty ⟨label, h⟩
        obtain ⟨vs, -, hvs, -⟩ := exists_resolve hempty hfaultless
        exact ⟨_, .resolved hempty hfaultless hvs.inherits⟩

theorem verdict_resolve (readFile : FileReader) (c : CloudConfig) :
    c.Verdict readFile (c.resolve readFile) := by
  obtain ⟨r, hr⟩ := exists_verdict readFile c
  exact hr.resolve_eq ▸ hr

theorem verdict_of_resolve_eq {r : Except ConfigError (List ResolvedVirtualCenter)}
    (h : c.resolve readFile = r) : c.Verdict readFile r :=
  h ▸ verdict_resolve readFile c

/-- What resolving returns. -/
theorem resolved_of_resolve (h : c.resolve readFile = .ok vs) :
    c.virtualCenters.isEmpty = false ∧ (∀ label, ¬ c.Faulty readFile label) ∧
      Resolved readFile c.global c.virtualCenters.toList vs ∧
      (vs.map (·.options.hostname)).Nodup := by
  cases verdict_of_resolve_eq h with
  | resolved hnonempty hfaultless _ =>
      obtain ⟨ws, hws, hresolved, hnodup⟩ := exists_resolve hnonempty hfaultless
      obtain rfl := Except.ok.inj (h.symm.trans hws)
      exact ⟨hnonempty, hfaultless, hresolved, hnodup⟩

/-- Resolving fails for lack of entries exactly if there is none. -/
theorem resolve_eq_noVirtualCenter_iff :
    c.resolve readFile = .error .noVirtualCenter ↔ c.virtualCenters.isEmpty = true := by
  refine ⟨fun h => ?_, fun h => (Verdict.nothing h).resolve_eq⟩
  cases verdict_of_resolve_eq h with
  | nothing hempty => exact hempty
  | fault _ he =>
      cases he with
      | own _ hown => cases hown

/-- Resolving succeeds exactly if there are entries and none has a fault. -/
theorem exists_resolve_iff :
    (∃ vs, c.resolve readFile = .ok vs) ↔
      c.virtualCenters.isEmpty = false ∧ ∀ label, ¬ c.Faulty readFile label := by
  constructor
  · rintro ⟨vs, h⟩
    obtain ⟨hnonempty, hfaultless, -⟩ := resolved_of_resolve h
    exact ⟨hnonempty, hfaultless⟩
  · rintro ⟨hnonempty, hfaultless⟩
    obtain ⟨vs, h, -⟩ := exists_resolve hnonempty hfaultless
    exact ⟨vs, h⟩

/-- There is one vCenter for each entry, in the order of their labels. -/
theorem labels_of_resolve (h : c.resolve readFile = .ok vs) :
    vs.map (·.label) = c.virtualCenters.keys ∧
      vs.Pairwise fun v w => Utf8.ofText v.label < Utf8.ofText w.label := by
  obtain ⟨-, -, hresolved, -⟩ := resolved_of_resolve h
  have hlabels : vs.map (·.label) = c.virtualCenters.keys := hresolved.labels.symm
  have hordered : c.virtualCenters.keys.Pairwise (· < ·) :=
    List.pairwise_map.mpr c.virtualCenters.ordered
  rw [← hlabels, List.pairwise_map] at hordered
  exact ⟨hlabels, hordered.imp Utf8.ofText_lt_iff.mpr⟩

/-- No two vCenters have the same server. -/
theorem servers_of_resolve (h : c.resolve readFile = .ok vs) :
    vs.Pairwise fun v w => v.options.hostname ≠ w.options.hostname := by
  obtain ⟨-, -, -, hnodup⟩ := resolved_of_resolve h
  exact List.pairwise_map.mp hnodup

/-- The first entry of a duplicate is the only one before the second to name its server. -/
theorem namedBefore_iff_of_resolve {second : String}
    (h : c.resolve readFile = .error (.duplicateServer server first second)) :
    c.NamedBefore second server label ↔ label = first := by
  cases verdict_of_resolve_eq h with
  | fault hleast he =>
      obtain ⟨rfl, hnamed⟩ := he.namedBefore
      refine ⟨fun hlabel => hlabel.unique hleast hnamed, ?_⟩
      rintro rfl
      exact hnamed

/-- Resolving answers the verdict.  It fails for lack of entries exactly if there is none, and
it succeeds exactly if there are some and none has a fault.  Then there is one vCenter for each
entry, in the order of the labels, and no two have the same server.  Where two entries name the
same server, the first one is the only one before the second to do so.  Of a file tree, all but
the files that hold the bytes of a text cannot be read. -/
theorem resolve_eq_iff_verdict (readFile : FileReader) (c : CloudConfig) :
    (∀ r, c.resolve readFile = r ↔ c.Verdict readFile r) ∧
    (c.resolve readFile = .error .noVirtualCenter ↔ c.virtualCenters.isEmpty = true) ∧
    ((∃ vs, c.resolve readFile = .ok vs) ↔
      c.virtualCenters.isEmpty = false ∧ ∀ label, ¬ c.Faulty readFile label) ∧
    (∀ vs, c.resolve readFile = .ok vs →
      vs.map (·.label) = c.virtualCenters.keys ∧
      vs.Pairwise (fun v w => Utf8.ofText v.label < Utf8.ofText w.label) ∧
      vs.Pairwise fun v w => v.options.hostname ≠ w.options.hostname) ∧
    (∀ server first second,
      c.resolve readFile = .error (.duplicateServer server first second) →
      ∀ label, c.NamedBefore second server label ↔ label = first) ∧
    ∀ (tree : FileTree) (path : String), (∃ cause, tree.read path = .error cause) ↔
      ∀ s, tree.find path ≠ .ok (.file (Utf8.ofText s)) := by
  refine ⟨fun r => ⟨verdict_of_resolve_eq, Verdict.resolve_eq⟩, resolve_eq_noVirtualCenter_iff,
    exists_resolve_iff, fun vs h => ?_, fun _ _ _ h _ => namedBefore_iff_of_resolve h,
    fun _ _ => FileTree.read_fails_iff⟩
  obtain ⟨hlabels, hordered⟩ := labels_of_resolve h
  exact ⟨hlabels, hordered, servers_of_resolve h⟩

/-- That `b` names the server of `a` is found before the two trust anchors of `c`. -/
example :
    resolve (fun _ => .error .notFound) {
      global := { caFile := some "ca.pem", thumbprint := some "AA:BB", insecureFlag := some true }
      virtualCenters := Table.ofList
        [("a", { server := "b" }), ("b", {}), ("c", { insecureFlag := some false })] } =
      .error (.duplicateServer "b" "a" "b") := by decide

end CloudConfig

end VcenterAccess
