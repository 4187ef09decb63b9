import VcenterAccess.CloudConfig.Resolution
import VcenterAccess.Proofs.Credential.History
import VcenterAccess.Proofs.Text.Inspecting
import VcenterAccess.Session.Strategy
import VcenterAccess.SharedToken.Options

/-!
# What inspections disclose

The inspections of credentials and of the configuration hide passwords and tokens, wherever
these are nested (`inspections_hide_secrets`).

The credentials in a cache are shown without them as well, but beside these stands the raw
Secret, byte by byte (`Secret.SameShape.inspect_append_inj`).  So the inspection of a manager
that has read a Secret tells all of it (`CredentialManager.inspect_read_inj`), and two managers
are told apart by a password (`CredentialManager.inspect_read_ne`).
-/

namespace VcenterAccess

open Text

/-! ## Values without their secrets -/

def Credential.blank (c : Credential) : Credential :=
  { c with password := "", sessionManagerToken := "" }

def SessionCredentials.blank (c : SessionCredentials) : SessionCredentials :=
  { c with password := "", sessionManagerToken := "" }

/-- Of a certificate login nothing is shown, the certificate included. -/
def LoginStrategy.blank : LoginStrategy → LoginStrategy
  | sharedSession url _ => sharedSession url ""
  | certificate _ _ => certificate "" ""
  | password username _ => password username ""

def SharedTokenOptions.blank (o : SharedTokenOptions) : SharedTokenOptions :=
  { o with token := "" }

def VirtualCenterSettings.blank (s : VirtualCenterSettings) : VirtualCenterSettings :=
  { s with password := none }

def VirtualCenterConfig.blank (c : VirtualCenterConfig) : VirtualCenterConfig :=
  { c with password := none }

def CloudConfig.blank (c : CloudConfig) : CloudConfig where
  global := c.global.blank
  virtualCenters := c.virtualCenters.map VirtualCenterConfig.blank

def ResolvedVirtualCenter.blank (v : ResolvedVirtualCenter) : ResolvedVirtualCenter :=
  { v with credentials := v.credentials.blank }

theorem Credential.hides : Hides Credential.inspect Credential.blank := fun _ => rfl

theorem SessionCredentials.hides :
    Hides SessionCredentials.inspect SessionCredentials.blank := fun _ => rfl

theorem LoginStrategy.hides : Hides LoginStrategy.inspect LoginStrategy.blank := by
  intro s
  cases s with
  | sharedSession url token => rfl
  | certificate certificate privateKey => rfl
  | password username password => rfl

theorem SharedTokenOptions.hides :
    Hides SharedTokenOptions.inspect SharedTokenOptions.blank := fun _ => rfl

theorem VirtualCenterSettings.hides :
    Hides VirtualCenterSettings.inspect VirtualCenterSettings.blank := fun _ => rfl

theorem VirtualCenterConfig.hides :
    Hides VirtualCenterConfig.inspect VirtualCenterConfig.blank := fun _ => rfl

theorem CloudConfig.hides : Hides CloudConfig.inspect CloudConfig.blank := by
  intro c
  have hentries : inspectMap VirtualCenterConfig.inspect c.blank.virtualCenters.toList =
      inspectMap VirtualCenterConfig.inspect c.virtualCenters.toList :=
    VirtualCenterConfig.hides.inspectMap_map c.virtualCenters.toList
  have hglobal : c.blank.global.inspect = c.global.inspect := VirtualCenterSettings.hides c.global
  rw [CloudConfig.inspect, CloudConfig.inspect, hentries, hglobal]

theorem ResolvedVirtualCenter.hides :
    Hides ResolvedVirtualCenter.inspect ResolvedVirtualCenter.blank := by
  intro v
  have hcredentials : v.blank.credentials.inspect = v.credentials.inspect :=
    SessionCredentials.hides v.credentials
  rw [ResolvedVirtualCenter.inspect, ResolvedVirtualCenter.inspect, hcredentials]
  rfl

/-- Values that differ in passwords and tokens only are shown alike, on every level of
credentials and configuration. -/
theorem inspections_hide_secrets :
    (∀ a b : Credential, a.blank = b.blank → a.inspect = b.inspect) ∧
    (∀ a b : SessionCredentials, a.blank = b.blank → a.inspect = b.inspect) ∧
    (∀ a b : LoginStrategy, a.blank = b.blank → a.inspect = b.inspect) ∧
    (∀ a b : SharedTokenOptions, a.blank = b.blank → a.inspect = b.inspect) ∧
    (∀ a b : VirtualCenterSettings, a.blank = b.blank → a.inspect = b.inspect) ∧
    (∀ a b : VirtualCenterConfig, a.blank = b.blank → a.inspect = b.inspect) ∧
    (∀ a b : CloudConfig, a.blank = b.blank → a.inspect = b.inspect) ∧
    (∀ a b : ResolvedVirtualCenter, a.blank = b.blank → a.inspect = b.inspect) :=
  ⟨fun _ _ => Credential.hides.inspect_eq, fun _ _ => SessionCredentials.hides.inspect_eq,
    fun _ _ => LoginStrategy.hides.inspect_eq, fun _ _ => SharedTokenOptions.hides.inspect_eq,
    fun _ _ => VirtualCenterSettings.hides.inspect_eq,
    fun _ _ => VirtualCenterConfig.hides.inspect_eq, fun _ _ => CloudConfig.hides.inspect_eq,
    fun _ _ => ResolvedVirtualCenter.hides.inspect_eq⟩

/-! ## Secrets -/

/-- A password or a token stands under the key. -/
def SecretKey.isSecret : SecretKey → Bool
  | legacy _ .password | legacy _ .sessionManagerToken | indexed _ .password => true
  | _ => false

/-- A password or a token stands under a key with this text. -/
def SecretPayload.holdsSecret (key : String) : Bool :=
  (SecretKey.classify? key).any SecretKey.isSecret

namespace Secret

theorem selfEnding_inspectBytes : SelfEnding inspectBytes := by
  intro bytes bytes' x y h
  have hnumbers : ∀ bs : List UInt8, inspectBytes bs =
      inspectCall "ByteString" [inspectList toString (bs.map UInt8.toNat)] := by
    intro bs
    simp [inspectBytes, inspectList, Function.comp_def]
  rw [hnumbers, hnumbers] at h
  obtain ⟨hbytes, hxy⟩ := selfEnding_numbers.inspectCall "ByteString" h
  exact ⟨(List.map_inj_right fun _ _ => UInt8.toNat_inj.mp).mp hbytes, hxy⟩

/-- Two Secrets that differ in nothing but the values under their keys. -/
structure SameShape (s t : Secret) : Prop where
  ns : s.ns = t.ns
  name : s.name = t.name
  uid : s.uid = t.uid
  revision : s.revision = t.revision
  keys : s.data.map Table.keys = t.data.map Table.keys

/-- Two Secrets that differ in nothing but passwords and tokens. -/
structure SameButSecrets (s t : Secret) : Prop extends s.SameShape t where
  shown : ∀ key, SecretPayload.holdsSecret key = false →
    s.payload.get? key = t.payload.get? key

/-- The inspection of a Secret tells every value.  The values come first, and then metadata, in
which the two do not differ. -/
theorem SameShape.inspect_append_inj {s t : Secret} (h : s.SameShape t) {x y : String}
    (heq : s.inspect ++ x = t.inspect ++ y) : s = t ∧ x = y := by
  obtain ⟨ns, name, uid, revision, data⟩ := s
  obtain ⟨ns', name', uid', revision', data'⟩ := t
  obtain ⟨rfl, rfl, rfl, rfl, hkeys⟩ := h
  simp only [inspect, inspectMetadata, inspectRecord, inspectFields, List.map_cons, joinWith_cons,
    String.append_assoc, String.append_right_inj] at heq
  cases data with
  | none =>
      obtain rfl := Option.map_eq_none_iff.mp hkeys.symm
      exact ⟨rfl, by simpa using heq⟩
  | some p =>
      obtain ⟨q, rfl, hsame⟩ := Option.map_eq_some_iff.mp hkeys.symm
      simp only [inspectOption, inspectCall, joinWith, String.append_assoc,
        String.append_right_inj] at heq
      obtain ⟨hentries, hbehind⟩ := selfEnding_inspectBytes.inspectMap_append_inj hsame.symm heq
      obtain rfl : p = q := Table.ext_get? fun k => congrArg (entryOf? k) hentries
      exact ⟨rfl, by simpa using hbehind⟩

end Secret

/-! ## Caches and managers -/

/-- The inspection of a cache tells the values of the Secret in it, whatever credentials
stand beside it. -/
theorem SecretCache.inspect_append_inj {s t : Secret} {table table' : CredentialTable}
    (h : s.SameShape t) {x y : String}
    (heq : SecretCache.inspect ⟨some s, table⟩ ++ x = SecretCache.inspect ⟨some t, table'⟩ ++ y) :
    s = t := by
  simp only [inspect, inspectRecord, inspectFields, inspectOption, inspectCall, List.map_cons,
    joinWith_cons, following, String.append_assoc, String.append_right_inj] at heq
  exact (h.inspect_append_inj heq).1

namespace CredentialManager

variable {m : CredentialManager} {s t : Secret}

/-- A manager that has read a Secret holds it. -/
theorem getCredential_of_stale {table : CredentialTable} (hstale : m.cache.isCurrent s = false)
    (hread : s.credentials = .ok table) (server : String) :
    (m.getCredential (some s) server).2 = { m with cache := ⟨some s, table⟩ } := by
  simp [getCredential, serve, refreshCache, hstale, hread, SecretCache.replace]

/-- The inspection of a manager tells the Secret that it has read, passwords and tokens
included. -/
theorem inspect_read_inj (lister server server' : String)
    (hs : m.cache.isCurrent s = false) (ht : m.cache.isCurrent t = false)
    (hreads : ∃ table, s.credentials = .ok table) (hreadt : ∃ table, t.credentials = .ok table)
    (h : s.SameShape t) :
    (m.getCredential (some s) server).2.inspect lister =
      (m.getCredential (some t) server').2.inspect lister ↔ s = t := by
  obtain ⟨table, hreads⟩ := hreads
  obtain ⟨table', hreadt⟩ := hreadt
  rw [getCredential_of_stale hs hreads, getCredential_of_stale ht hreadt]
  constructor
  · intro heq
    simp only [inspect, inspectRecord, inspectFields, List.map_cons, joinWith_cons, following,
      String.append_assoc, String.append_right_inj] at heq
    exact SecretCache.inspect_append_inj h heq
  · rintro rfl
    rw [Except.ok.inj (hreads.symm.trans hreadt)]

/-- A Secret with a login. -/
def loginSecret (password : String) : Secret where
  name := "creds"
  uid := some "3f2a"
  revision := some "1"
  data := some (SecretPayload.ofTexts [("a.username", "admin"), ("a.password", password)])

/-- What two managers have read differs in a password only, and they are told apart. -/
theorem inspect_read_ne :
    (loginSecret "one").SameButSecrets (loginSecret "two") ∧
      ∀ lister,
        ((start ⟨"", "creds"⟩).getCredential (some (loginSecret "one")) "a").2.inspect lister ≠
          ((start ⟨"", "creds"⟩).getCredential (some (loginSecret "two")) "a").2.inspect lister := by
  have halike : (loginSecret "one").SameButSecrets (loginSecret "two") := by
    refine ⟨⟨rfl, rfl, rfl, rfl, by decide +kernel⟩, fun key hkey => ?_⟩
    have hne : key ≠ "a.password" := by
      rintro rfl
      exact absurd hkey (by decide +kernel)
    simp [Secret.payload, loginSecret, SecretPayload.ofTexts, Table.ofList, hne]
  have hone : ∃ table, (loginSecret "one").credentials = .ok table :=
    ⟨Table.ofList [("a", ⟨"admin", "one", "", ""⟩)],
      SecretPayload.toOption_eq_some_iff.mp (by decide +kernel)⟩
  have htwo : ∃ table, (loginSecret "two").credentials = .ok table :=
    ⟨Table.ofList [("a", ⟨"admin", "two", "", ""⟩)],
      SecretPayload.toOption_eq_some_iff.mp (by decide +kernel)⟩
  refine ⟨halike, fun lister heq => ?_⟩
  have hsame := (inspect_read_inj lister "a" "a" rfl rfl hone htwo halike.toSameShape).mp heq
  exact absurd hsame (by decide +kernel)

end CredentialManager

end VcenterAccess
