import Mathlib.Logic.Basic
import VcenterAccess.CloudConfig.Resolution

/-!
# Resolving one entry

The settings that count for an entry are its own and, where it leaves one out,
those of all vCenters (`effective`).  Everything here is said of these.

An entry may have four faults of its own, and the first one in their order is
what resolving it answers (`resolveEntry_eq_error_iff`).  An entry without a fault
is resolved to the one vCenter that has what the entry sets and inherits what it
leaves out (`resolveEntry_eq_ok_iff`).
-/

namespace VcenterAccess

namespace VirtualCenterConfig

variable (readFile : FileReader) (global : VirtualCenterSettings) (label : String)
  (entry : VirtualCenterConfig)

/-! ## What counts for an entry -/

/-- The value of a setting for an entry: its own if it is set, else the one for all vCenters. -/
def effective {α : Type} (setting : VirtualCenterSettings → Option α) : Option α :=
  (setting entry.toVirtualCenterSettings).or (setting global)

/-- The flag turns the verification of certificates off. -/
def Unverified : Prop := entry.effective global (·.insecureFlag) = some true

/-- The thumbprint is set and not empty. -/
def HasThumbprint (digest : String) : Prop :=
  entry.effective global (·.thumbprint) = some digest ∧ digest ≠ ""

/-! ## Faults of an entry -/

/-- Neither the entry nor its label names a server. -/
def NoServer : Prop := entry.server = "" ∧ label = ""

/-- The name or the namespace of a Secret is set, but not both are set and not empty. -/
def HalfReference : Prop :=
  (entry.effective global (·.secretName) ≠ none ∨
      entry.effective global (·.secretNamespace) ≠ none) ∧
    ¬ ∃ name ns, entry.effective global (·.secretName) = some name ∧ name ≠ "" ∧
      entry.effective global (·.secretNamespace) = some ns ∧ ns ≠ ""

/-- Certificates are verified against a file and a thumbprint at once. -/
def TwoAnchors : Prop :=
  ¬ entry.Unverified global ∧ (∃ path, entry.effective global (·.caFile) = some path) ∧
    ∃ digest, entry.HasThumbprint global digest

/-- Certificates are verified against a file that cannot be read as text. -/
def Unreadable (path : String) (cause : FileError) : Prop :=
  ¬ entry.Unverified global ∧ entry.effective global (·.caFile) = some path ∧
    (∀ digest, ¬ entry.HasThumbprint global digest) ∧ readFile path = .error cause

/-- The first fault that an entry has of its own. -/
inductive OwnFault : ConfigError → Prop where
  | noServer : entry.NoServer label → OwnFault (.emptyServer label)
  | halfReference : ¬ entry.NoServer label → entry.HalfReference global →
      OwnFault (.incompleteSecretReference label)
  | twoAnchors : ¬ entry.NoServer label → ¬ entry.HalfReference global →
      entry.TwoAnchors global → OwnFault (.conflictingTrustAnchors label)
  | unreadable {path : String} {cause : FileError} : ¬ entry.NoServer label →
      ¬ entry.HalfReference global → ¬ entry.TwoAnchors global →
      entry.Unreadable readFile global path cause → OwnFault (.readCaFile path label cause)

/-! ## What an entry is resolved to -/

/-- How the certificate of an entry is verified: not at all if the flag says so, else
against the file, else by the thumbprint, else against the system roots. -/
inductive Anchor : TrustAnchor → Prop where
  | insecure : entry.Unverified global → Anchor .insecure
  | caBundle {path pem : String} : ¬ entry.Unverified global →
      entry.effective global (·.caFile) = some path → readFile path = .ok pem →
      Anchor (.caBundle pem)
  | thumbprint {digest : String} : ¬ entry.Unverified global →
      entry.effective global (·.caFile) = none → entry.HasThumbprint global digest →
      Anchor (.thumbprint digest)
  | systemRoots : ¬ entry.Unverified global → entry.effective global (·.caFile) = none →
      (∀ digest, ¬ entry.HasThumbprint global digest) → Anchor .systemRoots

/-- The vCenter has what the entry sets and inherits what it leaves out. -/
structure Inherits (v : ResolvedVirtualCenter) : Prop where
  labelled : v.label = label
  hostname : v.options.hostname = if entry.server = "" then label else entry.server
  port : v.options.port = (entry.effective global (·.port)).getD 443
  retries : v.options.retries = entry.effective global (·.roundTripperCount)
  username : v.credentials.username = (entry.effective global (·.user)).getD ""
  password : v.credentials.password = (entry.effective global (·.password)).getD ""
  sessionManagerUrl : v.credentials.sessionManagerUrl = ""
  sessionManagerToken : v.credentials.sessionManagerToken = ""
  secretName : v.secretReference.map SecretReference.name =
    entry.effective global (·.secretName)
  secretNamespace : v.secretReference.map SecretReference.ns =
    entry.effective global (·.secretNamespace)
  datacenters : v.datacenters = entry.datacenters
  anchor : entry.Anchor readFile global v.options.trustAnchor

/-! ## The Secret of an entry -/

variable {readFile global label entry}

theorem secretReference_of_half (h : entry.HalfReference global) :
    (entry.toVirtualCenterSettings.inherit global).secretReference label =
      .error (.incompleteSecretReference label) := by
  obtain ⟨hset, hnot⟩ := h
  unfold VirtualCenterSettings.secretReference
  split
  · next hname hns => exact (hset.elim (fun h => h hname) (fun h => h hns)).elim
  · next name ns hname hns =>
    refine if_pos (Decidable.byContradiction fun hempty => ?_)
    rw [Bool.or_eq_true, String.isEmpty_iff, String.isEmpty_iff, not_or] at hempty
    exact hnot ⟨name, ns, hname, hempty.1, hns, hempty.2⟩
  · rfl

variable (label) in
theorem exists_secretReference (h : ¬ entry.HalfReference global) :
    ∃ r, (entry.toVirtualCenterSettings.inherit global).secretReference label = .ok r ∧
      r.map SecretReference.name = entry.effective global (·.secretName) ∧
      r.map SecretReference.ns = entry.effective global (·.secretNamespace) := by
  unfold VirtualCenterSettings.secretReference
  split
  · next hname hns => exact ⟨none, rfl, hname.symm, hns.symm⟩
  · next name ns hname hns =>
    refine ⟨some ⟨ns, name⟩, if_neg fun hempty => h ⟨.inl fun hnone => ?_, ?_⟩, hname.symm,
      hns.symm⟩
    · exact Option.some_ne_none name (hname.symm.trans hnone)
    · rintro ⟨name', ns', hname', hne, hns', hne'⟩
      obtain rfl := Option.some.inj (hname.symm.trans hname')
      obtain rfl := Option.some.inj (hns.symm.trans hns')
      rw [Bool.or_eq_true, String.isEmpty_iff, String.isEmpty_iff] at hempty
      exact hempty.elim hne hne'
  · next hnone hsome =>
    refine absurd ⟨?_, ?_⟩ h
    · refine Classical.or_iff_not_imp_left.mpr fun hname hns => ?_
      exact hnone (Classical.not_not.mp hname) hns
    · rintro ⟨name, ns, hname, -, hns, -⟩
      exact hsome name ns hname hns

theorem secretReference_ext {r r' : Option SecretReference}
    (hname : r.map SecretReference.name = r'.map SecretReference.name)
    (hns : r.map SecretReference.ns = r'.map SecretReference.ns) : r = r' := by
  cases r with
  | none =>
      cases r' with
      | none => rfl
      | some _ => cases hname
  | some reference =>
      cases r' with
      | none => cases hname
      | some reference' =>
          cases reference
          obtain rfl := Option.some.inj hname
          obtain rfl := Option.some.inj hns
          rfl

/-! ## The trust anchor of an entry -/

/-- An entry has at most one trust anchor. -/
theorem Anchor.unique {a b : TrustAnchor} (ha : entry.Anchor readFile global a)
    (hb : entry.Anchor readFile global b) : a = b := by
  cases ha with
  | insecure h =>
      cases hb with
      | insecure _ => rfl
      | caBundle h' _ _ | thumbprint h' _ _ | systemRoots h' _ _ => exact absurd h h'
  | caBundle h hpath hread =>
      cases hb with
      | insecure h' => exact absurd h' h
      | caBundle _ hpath' hread' =>
          obtain rfl := Option.some.inj (hpath.symm.trans hpath')
          obtain rfl := Except.ok.inj (hread.symm.trans hread')
          rfl
      | thumbprint _ hnone _ | systemRoots _ hnone _ => cases hpath.symm.trans hnone
  | thumbprint h hnone hdigest =>
      cases hb with
      | insecure h' => exact absurd h' h
      | caBundle _ hpath _ => cases hpath.symm.trans hnone
      | thumbprint _ _ hdigest' =>
          obtain rfl := Option.some.inj (hdigest.1.symm.trans hdigest'.1)
          rfl
      | systemRoots _ _ hno => exact absurd hdigest (hno _)
  | systemRoots h hnone hno =>
      cases hb with
      | insecure h' => exact absurd h' h
      | caBundle _ hpath _ => cases hpath.symm.trans hnone
      | thumbprint _ _ hdigest => exact absurd hdigest (hno _)
      | systemRoots _ _ _ => rfl

theorem filter_thumbprint_eq_some_iff {digest : String} :
    ((entry.toVirtualCenterSettings.inherit global).thumbprint.filter fun t => !t.isEmpty) =
      some digest ↔ entry.HasThumbprint global digest := by
  rw [Option.filter_eq_some_iff, Bool.not_eq_true', ← Bool.not_eq_true, String.isEmpty_iff]
  rfl

theorem filter_thumbprint_eq_none_iff :
    ((entry.toVirtualCenterSettings.inherit global).thumbprint.filter fun t => !t.isEmpty) =
      none ↔ ∀ digest, ¬ entry.HasThumbprint global digest := by
  rw [Option.eq_none_iff_forall_ne_some]
  exact forall_congr' fun digest => not_congr filter_thumbprint_eq_some_iff

theorem trustAnchor_of_unverified (h : entry.Unverified global) :
    (entry.toVirtualCenterSettings.inherit global).trustAnchor readFile label = .ok .insecure := by
  unfold VirtualCenterSettings.trustAnchor
  rw [show (entry.toVirtualCenterSettings.inherit global).insecureFlag = some true from h]
  rfl

theorem flag_of_verified (h : ¬ entry.Unverified global) :
    ¬ (entry.toVirtualCenterSettings.inherit global).insecureFlag.getD false = true := by
  intro hflag
  cases hset : (entry.toVirtualCenterSettings.inherit global).insecureFlag with
  | none =>
      rw [hset] at hflag
      cases hflag
  | some flag =>
      rw [hset] at hflag
      obtain rfl : flag = true := hflag
      exact h hset

theorem trustAnchor_of_two (h : entry.TwoAnchors global) :
    (entry.toVirtualCenterSettings.inherit global).trustAnchor readFile label =
      .error (.conflictingTrustAnchors label) := by
  obtain ⟨hverified, ⟨path, hpath⟩, digest, hdigest⟩ := h
  unfold VirtualCenterSettings.trustAnchor
  rw [if_neg (flag_of_verified hverified),
    show (entry.toVirtualCenterSettings.inherit global).caFile = some path from hpath,
    filter_thumbprint_eq_some_iff.mpr hdigest]

theorem trustAnchor_of_unreadable {path : String} {cause : FileError}
    (h : entry.Unreadable readFile global path cause) :
    (entry.toVirtualCenterSettings.inherit global).trustAnchor readFile label =
      .error (.readCaFile path label cause) := by
  obtain ⟨hverified, hpath, hdigest, hcause⟩ := h
  unfold VirtualCenterSettings.trustAnchor
  rw [if_neg (flag_of_verified hverified),
    show (entry.toVirtualCenterSettings.inherit global).caFile = some path from hpath,
    filter_thumbprint_eq_none_iff.mpr hdigest]
  simp only [hcause]

variable (label) in
theorem exists_trustAnchor (htwo : ¬ entry.TwoAnchors global)
    (hreadable : ∀ path cause, ¬ entry.Unreadable readFile global path cause) :
    ∃ a, (entry.toVirtualCenterSettings.inherit global).trustAnchor readFile label = .ok a ∧
      entry.Anchor readFile global a := by
  by_cases hverified : entry.Unverified global
  · exact ⟨_, trustAnchor_of_unverified hverified, .insecure hverified⟩
  unfold VirtualCenterSettings.trustAnchor
  rw [if_neg (flag_of_verified hverified)]
  split
  · next path digest hpath hdigest =>
    exact absurd ⟨hverified, ⟨path, hpath⟩, digest, filter_thumbprint_eq_some_iff.mp hdigest⟩ htwo
  · next path hpath hdigest =>
    cases hread : readFile path with
    | ok pem => exact ⟨_, rfl, .caBundle hverified hpath hread⟩
    | error cause =>
        exact absurd ⟨hverified, hpath, filter_thumbprint_eq_none_iff.mp hdigest, hread⟩
          (hreadable path cause)
  · next digest hpath hdigest =>
    exact ⟨_, rfl, .thumbprint hverified hpath (filter_thumbprint_eq_some_iff.mp hdigest)⟩
  · next hpath hdigest =>
    exact ⟨_, rfl, .systemRoots hverified hpath (filter_thumbprint_eq_none_iff.mp hdigest)⟩

/-! ## The entry as a whole -/

theorem serverOr_eq : entry.serverOr label = if entry.server = "" then label else entry.server := by
  unfold serverOr
  simp only [String.isEmpty_iff]

theorem isEmpty_serverOr_iff : (entry.serverOr label).isEmpty = true ↔ entry.NoServer label := by
  rw [String.isEmpty_iff, serverOr_eq]
  by_cases h : entry.server = ""
  · rw [if_pos h]
    exact ⟨fun hlabel => ⟨h, hlabel⟩, And.right⟩
  · rw [if_neg h]
    exact ⟨fun hserver => absurd hserver h, fun hno => absurd hno.1 h⟩

theorem resolveEntry_of_server (h : ¬ entry.NoServer label) :
    CloudConfig.resolveEntry readFile global label entry = do
      let secretReference ←
        (entry.toVirtualCenterSettings.inherit global).secretReference label
      let trustAnchor ←
        (entry.toVirtualCenterSettings.inherit global).trustAnchor readFile label
      return {
        label
        options := {
          hostname := entry.serverOr label
          port := (entry.effective global (·.port)).getD defaultPort
          trustAnchor
          retries := entry.effective global (·.roundTripperCount) }
        credentials := {
          username := (entry.effective global (·.user)).getD ""
          password := (entry.effective global (·.password)).getD "" }
        secretReference
        datacenters := entry.datacenters } := by
  unfold CloudConfig.resolveEntry
  rw [if_neg (isEmpty_serverOr_iff.not.mpr h)]
  rfl

/-- The first fault of an entry is what resolving it answers. -/
theorem OwnFault.resolveEntry_eq {e : ConfigError} (h : entry.OwnFault readFile global label e) :
    CloudConfig.resolveEntry readFile global label entry = .error e := by
  cases h with
  | noServer hserver =>
      unfold CloudConfig.resolveEntry
      rw [if_pos (isEmpty_serverOr_iff.mpr hserver)]
      rfl
  | halfReference hserver hhalf =>
      rw [resolveEntry_of_server hserver, secretReference_of_half hhalf]
      rfl
  | twoAnchors hserver hwhole htwo =>
      obtain ⟨r, hr, -⟩ := exists_secretReference label hwhole
      rw [resolveEntry_of_server hserver, hr, trustAnchor_of_two htwo]
      rfl
  | unreadable hserver hwhole htwo hunreadable =>
      obtain ⟨r, hr, -⟩ := exists_secretReference label hwhole
      rw [resolveEntry_of_server hserver, hr, trustAnchor_of_unreadable hunreadable]
      rfl

/-- An entry without a fault of its own is resolved. -/
theorem exists_resolveEntry (h : ∀ e, ¬ entry.OwnFault readFile global label e) :
    ∃ v, CloudConfig.resolveEntry readFile global label entry = .ok v ∧
      entry.Inherits readFile global label v := by
  have hserver : ¬ entry.NoServer label := fun hno => h _ (.noServer hno)
  have hwhole : ¬ entry.HalfReference global := fun hhalf => h _ (.halfReference hserver hhalf)
  have htwo : ¬ entry.TwoAnchors global := fun htwo => h _ (.twoAnchors hserver hwhole htwo)
  have hreadable : ∀ path cause, ¬ entry.Unreadable readFile global path cause :=
    fun path cause hu => h _ (.unreadable hserver hwhole htwo hu)
  obtain ⟨r, hr, hname, hns⟩ := exists_secretReference label hwhole
  obtain ⟨a, ha, hanchor⟩ := exists_trustAnchor label htwo hreadable
  rw [resolveEntry_of_server hserver, hr, ha]
  exact ⟨_, rfl, {
    labelled := rfl
    hostname := serverOr_eq
    port := rfl
    retries := rfl
    username := rfl
    password := rfl
    sessionManagerUrl := rfl
    sessionManagerToken := rfl
    secretName := hname
    secretNamespace := hns
    datacenters := rfl
    anchor := hanchor }⟩

/-- Resolving an entry fails with its first fault. -/
theorem resolveEntry_eq_error_iff {e : ConfigError} :
    CloudConfig.resolveEntry readFile global label entry = .error e ↔
      entry.OwnFault readFile global label e := by
  refine ⟨fun herror => ?_, OwnFault.resolveEntry_eq⟩
  by_cases hfault : ∃ e', entry.OwnFault readFile global label e'
  · obtain ⟨e', he'⟩ := hfault
    rw [he'.resolveEntry_eq] at herror
    exact Except.error.inj herror ▸ he'
  · obtain ⟨v, hv, -⟩ := exists_resolveEntry fun e' he' => hfault ⟨e', he'⟩
    rw [hv] at herror
    cases herror

/-- At most one vCenter inherits. -/
theorem Inherits.unique {v w : ResolvedVirtualCenter} (hv : entry.Inherits readFile global label v)
    (hw : entry.Inherits readFile global label w) : v = w := by
  have hanchor := hv.anchor.unique hw.anchor
  have hreference : v.secretReference = w.secretReference :=
    secretReference_ext (hv.secretName.trans hw.secretName.symm)
      (hv.secretNamespace.trans hw.secretNamespace.symm)
  obtain ⟨_, ⟨_, _, _, _⟩, ⟨_, _, _, _⟩, _, _⟩ := v
  obtain ⟨_, ⟨_, _, _, _⟩, ⟨_, _, _, _⟩, _, _⟩ := w
  simp only [ResolvedVirtualCenter.mk.injEq, ConnectionOptions.mk.injEq,
    SessionCredentials.mk.injEq]
  exact ⟨hv.labelled.trans hw.labelled.symm,
    ⟨hv.hostname.trans hw.hostname.symm, hv.port.trans hw.port.symm, hanchor,
      hv.retries.trans hw.retries.symm⟩,
    ⟨hv.username.trans hw.username.symm, hv.password.trans hw.password.symm,
      hv.sessionManagerUrl.trans hw.sessionManagerUrl.symm,
      hv.sessionManagerToken.trans hw.sessionManagerToken.symm⟩,
    hreference, hv.datacenters.trans hw.datacenters.symm⟩

/-- An entry is resolved if it has no fault, and then to what inherits. -/
theorem resolveEntry_eq_ok_iff {v : ResolvedVirtualCenter} :
    CloudConfig.resolveEntry readFile global label entry = .ok v ↔
      (∀ e, ¬ entry.OwnFault readFile global label e) ∧
        entry.Inherits readFile global label v := by
  constructor
  · intro h
    have hfault : ∀ e, ¬ entry.OwnFault readFile global label e := by
      intro e he
      rw [he.resolveEntry_eq] at h
      cases h
    obtain ⟨w, hw, hinherits⟩ := exists_resolveEntry hfault
    rw [h] at hw
    exact ⟨hfault, Except.ok.inj hw ▸ hinherits⟩
  · rintro ⟨hfault, hinherits⟩
    obtain ⟨w, hw, hinherits'⟩ := exists_resolveEntry hfault
    rw [hw, hinherits'.unique hinherits]

end VirtualCenterConfig

end VcenterAccess
