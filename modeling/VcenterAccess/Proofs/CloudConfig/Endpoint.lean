import VcenterAccess.Proofs.CloudConfig.Verdict
import VcenterAccess.Proofs.Text.Endings
import VcenterAccess.Proofs.Text.Numerals

/-!
# Endpoints of a configuration

The endpoint of a vCenter is its host and port as they stand in its URL
(`ConnectionOptions.hostPort`).  There an IPv6 address stands in brackets, whether or not
it was written with them.  So an address has two spellings with one endpoint, and no other
two hosts share one (`ConnectionOptions.hostPort_eq_iff`).

When a configuration is resolved, servers are compared as they are spelled.  So two of its
vCenters have one endpoint exactly if they have one port and both spellings of one address
(`CloudConfig.hostPort_eq_iff_of_resolve`).
-/

namespace VcenterAccess

namespace ConnectionOptions

/-- The host is an IPv6 address without its brackets. -/
def LacksBrackets (host : String) : Prop :=
  ':' ∈ host.toList ∧ host.toList.head? ≠ some '['

instance (host : String) : Decidable (LacksBrackets host) :=
  inferInstanceAs (Decidable (_ ∧ _))

/-- The host in brackets. -/
def bracketed (host : String) : String := "[" ++ host ++ "]"

/-- The second host is the first one with the brackets that it lacks. -/
def Brackets (host host' : String) : Prop := LacksBrackets host ∧ host' = bracketed host

instance (host host' : String) : Decidable (Brackets host host') :=
  inferInstanceAs (Decidable (_ ∧ _))

/-- The host as it stands in a URL. -/
def urlHost (host : String) : String := if LacksBrackets host then bracketed host else host

section

variable {host host' : String}

theorem not_lacksBrackets_bracketed (host : String) : ¬ LacksBrackets (bracketed host) := by
  simp [LacksBrackets, bracketed]

theorem Brackets.ne (h : Brackets host host') : host ≠ host' := by
  rintro rfl
  exact not_lacksBrackets_bracketed host (h.2 ▸ h.1)

theorem bracketed_inj : bracketed host = bracketed host' ↔ host = host' := by
  simp [bracketed, ← String.toList_inj]

/-- Two hosts are the same in a URL if they are the same up to the brackets that one of them
lacks. -/
theorem urlHost_eq_iff :
    urlHost host = urlHost host' ↔ host = host' ∨ Brackets host host' ∨ Brackets host' host := by
  by_cases h : LacksBrackets host
  · by_cases h' : LacksBrackets host'
    · have hne : ∀ {k k' : String}, LacksBrackets k' → k' ≠ bracketed k := by
        rintro k _ hk rfl
        exact not_lacksBrackets_bracketed k hk
      simp [urlHost, Brackets, h, h', bracketed_inj, hne h, hne h']
    · have hne : host ≠ host' := by
        rintro rfl
        exact h' h
      simp [urlHost, Brackets, h, h', hne, eq_comm]
  · by_cases h' : LacksBrackets host'
    · have hne : host ≠ host' := by
        rintro rfl
        exact h h'
      simp [urlHost, Brackets, h, h', hne]
    · simp [urlHost, Brackets, h, h']

end

theorem hostPort_eq (o : ConnectionOptions) :
    o.hostPort = urlHost o.hostname ++ ":" ++ toString o.port.toNat := by
  by_cases h : LacksBrackets o.hostname
  · have hlacks := h
    simp only [LacksBrackets] at hlacks
    simp [hostPort, urlHost, h, hlacks, bracketed, String.append_assoc]
  · have hlacks := h
    simp only [LacksBrackets] at hlacks
    simp [hostPort, urlHost, h, hlacks]

theorem colon_notMem_toString (n : Nat) : ':' ∉ (toString n).toList :=
  fun h => absurd (Text.isDigit_of_mem_toString h) (by decide)

theorem toString_toNat_inj {n k : UInt16} :
    toString n.toNat = toString k.toNat ↔ n = k :=
  Text.toString_inj.trans UInt16.toNat_inj

/-- An endpoint determines the port, which is what comes after the last colon, and the host as
it stands in a URL. -/
theorem hostPort_inj {o p : ConnectionOptions} :
    o.hostPort = p.hostPort ↔ urlHost o.hostname = urlHost p.hostname ∧ o.port = p.port := by
  constructor
  · intro h
    have hcut : (urlHost o.hostname).toList ++ ':' :: (toString o.port.toNat).toList =
        (urlHost p.hostname).toList ++ ':' :: (toString p.port.toNat).toList := by
      simpa [hostPort_eq, ← String.toList_inj] using h
    have hport := Text.eq_of_append_cons_eq hcut (colon_notMem_toString o.port.toNat)
      (colon_notMem_toString p.port.toNat)
    rw [hport, List.append_cancel_right_eq, String.toList_inj] at hcut
    exact ⟨hcut, toString_toNat_inj.mp (String.toList_inj.mp hport)⟩
  · rintro ⟨hhost, hport⟩
    rw [hostPort_eq, hostPort_eq, hhost, hport]

/-- Two endpoints are the same if the ports are, and the hosts up to the brackets that one of
them lacks. -/
theorem hostPort_eq_iff {o p : ConnectionOptions} :
    o.hostPort = p.hostPort ↔ o.port = p.port ∧
      (o.hostname = p.hostname ∨ Brackets o.hostname p.hostname ∨
        Brackets p.hostname o.hostname) := by
  rw [hostPort_inj, urlHost_eq_iff, and_comm]

end ConnectionOptions

namespace CloudConfig

open ConnectionOptions

variable {readFile : FileReader} {c : CloudConfig} {vs : List ResolvedVirtualCenter}

/-- A label has one vCenter. -/
theorem eq_of_label_eq (h : c.resolve readFile = .ok vs) {v w : ResolvedVirtualCenter}
    (hv : v ∈ vs) (hw : w ∈ vs) (heq : v.label = w.label) : v = w := by
  have hnodup : (vs.map (·.label)).Nodup := by
    refine List.pairwise_map.mpr ((labels_of_resolve h).2.imp fun hlt heq => ?_)
    exact List.lt_irrefl _ (heq ▸ hlt)
  exact List.inj_on_of_nodup_map hnodup hv hw heq

/-- No two labels have one server. -/
theorem hostname_ne_of_label_ne (h : c.resolve readFile = .ok vs) {v w : ResolvedVirtualCenter}
    (hv : v ∈ vs) (hw : w ∈ vs) (hne : v.label ≠ w.label) :
    v.options.hostname ≠ w.options.hostname := by
  intro heq
  have hnodup : (vs.map (·.options.hostname)).Nodup :=
    List.pairwise_map.mpr (servers_of_resolve h)
  exact hne (congrArg _ (List.inj_on_of_nodup_map hnodup hv hw heq))

/-- Two vCenters of a configuration that is resolved have one endpoint exactly if they have one
port, and the server of one is that of the other with the brackets that it lacks.  So the
endpoints are different for different labels, unless an IPv6 address is written in both
ways for one port. -/
theorem hostPort_eq_iff_of_resolve (h : c.resolve readFile = .ok vs) :
    (∀ v ∈ vs, ∀ w ∈ vs, v.label ≠ w.label →
      (v.options.hostPort = w.options.hostPort ↔ v.options.port = w.options.port ∧
        (Brackets v.options.hostname w.options.hostname ∨
          Brackets w.options.hostname v.options.hostname))) ∧
    ((∀ v ∈ vs, ∀ w ∈ vs, v.label ≠ w.label → v.options.hostPort ≠ w.options.hostPort) ↔
      ∀ v ∈ vs, ∀ w ∈ vs, v.options.port = w.options.port →
        ¬ Brackets v.options.hostname w.options.hostname) := by
  have hpair : ∀ v ∈ vs, ∀ w ∈ vs, v.label ≠ w.label →
      (v.options.hostPort = w.options.hostPort ↔ v.options.port = w.options.port ∧
        (Brackets v.options.hostname w.options.hostname ∨
          Brackets w.options.hostname v.options.hostname)) := by
    intro v hv w hw hne
    rw [hostPort_eq_iff, or_iff_right (hostname_ne_of_label_ne h hv hw hne)]
  refine ⟨hpair, fun hdistinct v hv w hw hport hbrackets => ?_, fun hspelled v hv w hw hne heq => ?_⟩
  · have hne : v.label ≠ w.label := by
      intro heq
      obtain rfl := eq_of_label_eq h hv hw heq
      exact hbrackets.ne rfl
    exact hdistinct v hv w hw hne ((hpair v hv w hw hne).mpr ⟨hport, .inl hbrackets⟩)
  · obtain ⟨hport, hbrackets | hbrackets⟩ := (hpair v hv w hw hne).mp heq
    · exact hspelled v hv w hw hport hbrackets
    · exact hspelled w hw v hv hport.symm hbrackets

/-- An address in both spellings, and a name. -/
def spelledTwice (port : UInt16) : CloudConfig where
  virtualCenters := Table.ofList
    [("a", { server := "fd00::1" }), ("b", { server := "[fd00::1]", port := some port }),
      ("c", { port := some port })]

theorem hostPort_eq_iff_of_resolve_ports :
    ∃ vs, (spelledTwice 8443).resolve (fun _ => .error .notFound) = .ok vs ∧
      vs.map (·.options.hostPort) = ["[fd00::1]:443", "[fd00::1]:8443", "c:8443"] ∧
      ∀ v ∈ vs, ∀ w ∈ vs, v.label ≠ w.label → v.options.hostPort ≠ w.options.hostPort := by
  have h : (spelledTwice 8443).resolve (fun _ => .error .notFound) = .ok
      [⟨"a", { hostname := "fd00::1" }, {}, none, []⟩,
        ⟨"b", { hostname := "[fd00::1]", port := 8443 }, {}, none, []⟩,
        ⟨"c", { hostname := "c", port := 8443 }, {}, none, []⟩] := by decide
  exact ⟨_, h, by decide, (hostPort_eq_iff_of_resolve h).2.mpr (by decide)⟩

/-- One port for both spellings makes one endpoint of two labels. -/
theorem exists_hostPort_eq :
    ¬ ∀ (readFile : FileReader) (c : CloudConfig) (vs : List ResolvedVirtualCenter),
      c.resolve readFile = .ok vs →
      ∀ v ∈ vs, ∀ w ∈ vs, v.label ≠ w.label → v.options.hostPort ≠ w.options.hostPort := by
  intro hdistinct
  have h : (spelledTwice 443).resolve (fun _ => .error .notFound) = .ok
      [⟨"a", { hostname := "fd00::1" }, {}, none, []⟩, ⟨"b", { hostname := "[fd00::1]" }, {}, none, []⟩,
        ⟨"c", { hostname := "c" }, {}, none, []⟩] := by decide
  exact hdistinct _ _ _ h _ (.head _) _ (.tail _ (.head _)) (by decide) (by decide)

end CloudConfig

end VcenterAccess
