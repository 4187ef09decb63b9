import VcenterAccess.Connection.Endpoint
import VcenterAccess.Proofs.CloudConfig.Endpoint
import VcenterAccess.Proofs.Url.Ports
import VcenterAccess.Proofs.Url.Reading

/-!
# Where a connection leads

The URL of a vCenter is put together from its host and port as they are configured, and then
read.  It leads to the path `/sdk` at the configured port exactly if the host is confined
(`ConnectionOptions.sdkUrl_leadsTo_iff`): nothing in it ends the authority, and no at sign
stands behind its first character.  A host that is not confined takes the port and the path
with it, as a slash at its end does (`ConnectionOptions.exists_sdkUrl_not_leadsTo`).
-/

namespace VcenterAccess

open Text

namespace Url

/-- The URL leads to the interface at a port, over TLS and with nothing else. -/
structure LeadsTo (u : Url) (port : UInt16) : Prop where
  scheme : u.scheme = .https
  port : u.effectivePort = port
  path : u.pathText = "/sdk"
  userInfo : u.hasUserInfo = false
  query : u.query = none
  fragment : u.fragment = none

section

variable {host : List Char} {port : UInt16} {u : Url}

theorem endsAuthority_of_mem_port {c : Char} (hc : c ∈ ':' :: portDigits port) :
    endsAuthority c = false := by
  refine Bool.eq_false_iff.mpr fun hends => ?_
  simp only [endsAuthority, isSlash, Bool.or_eq_true, decide_eq_true_iff] at hends
  rcases List.mem_cons.mp hc with rfl | hc
  · exact absurd hends (by decide)
  · have hdigit := isDigit_of_mem_portDigits hc
    rcases hends with ((rfl | rfl) | rfl) | rfl <;> exact absurd hdigit (by decide)

theorem isCounted_of_mem_port {c : Char} (hc : c ∈ ':' :: portDigits port) :
    isCounted c = true := by
  refine Bool.of_not_eq_false fun hskipped => ?_
  simp only [isCounted, Bool.and_eq_false_iff, decide_eq_false_iff_not, not_not] at hskipped
  rcases List.mem_cons.mp hc with rfl | hc
  · exact absurd hskipped (by decide)
  · have hdigit := isDigit_of_mem_portDigits hc
    rcases hskipped with (rfl | rfl) | rfl <;> exact absurd hdigit (by decide)

/-- Where nothing in the host ends the authority, only user information can be wrong; whatever
that takes away, it leaves the port.  A colon comes first only if there is no host, and then there
is no at sign either. -/
theorem leadsTo_iff_of_authority (hstart : host.head? ≠ some ':')
    (hhost : ∀ c ∈ host, endsAuthority c = false)
    (h : readAuthority .https (host ++ ':' :: portDigits port ++ '/' :: "sdk".toList) = .ok u) :
    u.LeadsTo port ↔ '@' ∉ host.tail := by
  have hauthority : ∀ c ∈ host ++ ':' :: portDigits port, endsAuthority c = false := by
    intro c hc
    rcases List.mem_append.mp hc with hc | hc
    · exact hhost c hc
    · exact endsAuthority_of_mem_port hc
  have hat : '@' ∉ ':' :: portDigits port := by
    rw [List.mem_cons, not_or]
    exact ⟨by decide, notMem_portDigits port (by decide)⟩
  obtain ⟨host', p, hparse, hport, rfl⟩ := readAuthority_append hauthority (by decide) h
  obtain ⟨before, hbefore⟩ := splitUserInfo_snd_append host hat
  rw [hbefore] at hparse hport
  obtain rfl := port_of_splitHost hparse hport
  have htail : '@' ∉ (host ++ ':' :: portDigits port).tail ↔ '@' ∉ host.tail := by
    cases host with
    | nil => exact iff_of_true (notMem_portDigits port (by decide)) List.not_mem_nil
    | cons c host => simp [notMem_portDigits port (show '@'.isDigit = false by decide)]
  have hcolon : (host ++ ':' :: portDigits port).head? = some ':' →
      '@' ∉ (host ++ ':' :: portDigits port).tail := by
    cases host with
    | nil => exact fun _ => notMem_portDigits port (by decide)
    | cons c host => exact fun h => absurd h hstart
  have hpath : appendSegments [] (segments ((splitSuffix ('/' :: "sdk".toList)).1.drop 1)) =
      ["sdk"] := by decide
  rw [← htail, ← readUserInfo_eq_empty_iff hcolon]
  constructor
  · rintro ⟨-, -, -, huserInfo, -, -⟩
    rw [hasUserInfo, Bool.or_eq_false_iff, Bool.not_eq_false', Bool.not_eq_false',
      String.isEmpty_iff, String.isEmpty_iff] at huserInfo
    exact Prod.ext huserInfo.1 huserInfo.2
  · intro hnobody
    refine ⟨rfl, ?_, by rw [pathText, hpath]; rfl, ?_, rfl, rfl⟩
    · unfold effectivePort
      split
      · next hdefault => exact hdefault.symm
      · rfl
    · rw [hnobody]
      rfl

/-- A port between slashes is part of the path. -/
theorem exists_colon_mem_segments (cs : List Char) (port : UInt16) :
    ∃ s ∈ appendSegments [] (segments (cs ++ (':' :: portDigits port ++ '/' :: "sdk".toList))),
      ':' ∈ s.toList := by
  have hslash : '/' ∉ ':' :: portDigits port :=
    fun hmem => absurd (endsAuthority_of_mem_port hmem) (by decide)
  have hsame : ((':' :: portDigits port).map fun c => if c = '\\' then '/' else c) =
      ':' :: portDigits port := by
    refine (List.map_congr_left fun c hc => if_neg ?_).trans (List.map_id _)
    rintro rfl
    exact absurd (endsAuthority_of_mem_port hc) (by decide)
  obtain ⟨ps, p, hpieces⟩ := exists_pieces_append
    (cs.map fun c => if c = '\\' then '/' else c) hslash
  have hsegments : segments (cs ++ (':' :: portDigits port ++ '/' :: "sdk".toList)) =
      ps ++ [p ++ ':' :: portDigits port, "sdk".toList] := by
    rw [segments, List.map_append, List.map_append, hsame, ← List.append_assoc, List.map_cons,
      if_neg (by decide), pieces_append_cons, hpieces, List.append_assoc]
    rfl
  have hcolon : ':' ∈ p ++ ':' :: portDigits port :=
    List.mem_append_right p (List.mem_cons_self ..)
  have hplain : ∀ s ∈ [p ++ ':' :: portDigits port, "sdk".toList], isPlain s = true := by
    intro s hs
    rcases List.mem_cons.mp hs with rfl | hs
    · exact isPlain_of_colon hcolon
    · rw [List.mem_singleton.mp hs]
      decide
  refine ⟨pathSegment (p ++ ':' :: portDigits port), ?_, ?_⟩
  · rw [hsegments]
    exact (suffix_appendSegments [] ps hplain (by simp)).subset (List.mem_cons_self ..)
  · rw [pathSegment, String.toList_ofList]
    exact mem_percentEncode (by decide) hcolon

/-- Where something in the host ends the authority, the port stands behind it: it is in the path,
or the path is not all that follows. -/
theorem not_leadsTo_of_endsAuthority {c : Char} (hc : c ∈ host) (hends : endsAuthority c = true)
    (h : readAuthority .https (host ++ ':' :: portDigits port ++ '/' :: "sdk".toList) = .ok u) :
    ¬ u.LeadsTo port := by
  obtain ⟨d, hd⟩ := Option.isSome_iff_exists.mp (List.find?_isSome.mpr ⟨c, hc, hends⟩)
  obtain ⟨hends, before, after, rfl, hbefore⟩ := List.find?_eq_some_iff_append.mp hd
  rw [List.append_assoc, List.append_assoc, List.cons_append] at h
  obtain ⟨host', p, hparse, hport, rfl⟩ :=
    readAuthority_append (fun e he => by simpa using hbefore e he) hends h
  rintro ⟨-, -, hpath, -, hquery, hfragment⟩
  by_cases hsuffix :
      ∀ e ∈ d :: (after ++ (':' :: portDigits port ++ '/' :: "sdk".toList)), beforeSuffix e = true
  · rw [pathText, splitSuffix_eq_self hsuffix, List.drop_succ_cons, List.drop_zero] at hpath
    obtain ⟨s, hs, hmem⟩ := exists_colon_mem_segments after port
    have hcolon : ':' ∈ "/sdk".toList := by
      rw [← hpath, String.toList_append]
      exact List.mem_append_right _ (mem_joinWith hs hmem)
    exact absurd hcolon (by decide)
  · obtain ⟨e, he, hends⟩ := not_forall₂.mp hsuffix
    rcases readSuffix_ne_none he (Bool.eq_false_iff.mpr hends) with hne | hne
    · exact hne hquery
    · exact hne hfragment

end

end Url

namespace ConnectionOptions

open Url

/-- The characters of a host that a URL is read from: neither tabs and line ends nor slashes at
its start count. -/
def countedHost (host : String) : List Char :=
  ((urlHost host).toList.filter isCounted).dropWhile isSlash

/-- The host is only a host where it stands in the URL. -/
def Confined (host : String) : Prop :=
  (∀ c ∈ countedHost host, endsAuthority c = false) ∧ '@' ∉ (countedHost host).tail

instance (host : String) : Decidable (Confined host) :=
  @instDecidableAnd _ _ (List.decidableBAll _ _) _

/-- No character of the host separates the parts of a URL. -/
def Plain (host : String) : Prop := ∀ c ∈ host.toList, endsAuthority c = false ∧ c ≠ '@'

instance (host : String) : Decidable (Plain host) := List.decidableBAll _ _

theorem mem_of_mem_countedHost {host : String} {c : Char} (h : c ∈ countedHost host) :
    c ∈ host.toList ∨ c = '[' ∨ c = ']' := by
  have hmem : c ∈ (urlHost host).toList :=
    (List.mem_filter.mp (List.dropWhile_subset _ h)).1
  unfold urlHost at hmem
  split at hmem
  · simp only [bracketed, String.toList_append, List.mem_append] at hmem
    rcases hmem with (hmem | hmem) | hmem
    · exact .inr (.inl (List.mem_singleton.mp hmem))
    · exact .inl hmem
    · exact .inr (.inr (List.mem_singleton.mp hmem))
  · exact .inl hmem

/-- A host with a colon is in brackets. -/
theorem head?_urlHost {host : String} (h : ':' ∈ host.toList) :
    (urlHost host).toList.head? = some '[' := by
  unfold urlHost
  split
  · simp [bracketed]
  · next hlacks => exact not_not.mp fun hne => hlacks ⟨h, hne⟩

theorem head?_countedHost (host : String) : (countedHost host).head? ≠ some ':' := by
  intro hstart
  rcases mem_of_mem_countedHost (List.mem_of_head? hstart) with hmem | hmem | hmem
  · obtain ⟨rest, hrest⟩ := List.head?_eq_some_iff.mp (head?_urlHost hmem)
    rw [countedHost, hrest, List.filter_cons_of_pos (by decide),
      List.dropWhile_cons_of_neg (by decide)] at hstart
    cases hstart
  · exact absurd hmem (by decide)
  · exact absurd hmem (by decide)

theorem filter_isCounted_port (port : UInt16) :
    (':' :: portDigits port ++ '/' :: "sdk".toList).filter isCounted =
      ':' :: portDigits port ++ '/' :: "sdk".toList := by
  refine List.filter_eq_self.mpr fun c hc => ?_
  rcases List.mem_append.mp hc with hc | hc
  · exact isCounted_of_mem_port hc
  · have hpath : ('/' :: "sdk".toList).all isCounted = true := by decide
    exact List.all_eq_true.mp hpath c hc

/-- The URL is read as an authority and a path. -/
theorem sdkUrl_eq (o : ConnectionOptions) :
    o.sdkUrl = readAuthority .https
      (countedHost o.hostname ++ ':' :: portDigits o.port ++ '/' :: "sdk".toList) := by
  have htext : ("https://" ++ o.hostPort ++ "/sdk").toList = "https".toList ++ ':' ::
      ("//".toList ++ (urlHost o.hostname).toList ++
        (':' :: portDigits o.port ++ '/' :: "sdk".toList)) := by
    rw [hostPort_eq]
    simp [portDigits]
  have hsignificant : significant ("https://" ++ o.hostPort ++ "/sdk").toList = "https".toList ++
      ':' :: ("//".toList ++ (urlHost o.hostname).toList.filter isCounted ++
        (':' :: portDigits o.port ++ '/' :: "sdk".toList)) := by
    have hstart : ∀ c, ("https://" ++ o.hostPort ++ "/sdk").toList.head? = some c →
        isControlOrBlank c = false := by
      rw [htext]
      rintro c ⟨⟩
      decide
    have hend : ∀ c, ("https://" ++ o.hostPort ++ "/sdk").toList.getLast? = some c →
        isControlOrBlank c = false := by
      rw [String.toList_append]
      intro c hc
      rw [List.getLast?_append] at hc
      cases hc
      decide
    rw [significant_eq_filter hstart hend, htext, List.filter_append,
      List.filter_cons_of_pos (by decide), List.filter_append, List.filter_append,
      filter_isCounted_port]
    rfl
  have hslashes : ("//".toList ++ (urlHost o.hostname).toList.filter isCounted ++
      (':' :: portDigits o.port ++ '/' :: "sdk".toList)).dropWhile isSlash =
      countedHost o.hostname ++ ':' :: portDigits o.port ++ '/' :: "sdk".toList := by
    rw [List.append_assoc, List.dropWhile_append_of_pos (List.all_eq_true.mp (by decide)),
      List.dropWhile_append, List.append_assoc, ← countedHost]
    split
    · next hempty =>
      rw [List.isEmpty_iff.mp hempty]
      rfl
    · rfl
  rw [sdkUrl_eq_parse, Url.parse, hsignificant, splitScheme?_https]
  exact congrArg (readAuthority .https) hslashes

theorem Plain.confined {host : String} (h : Plain host) : Confined host := by
  have hcounted : ∀ c ∈ countedHost host, endsAuthority c = false ∧ c ≠ '@' := by
    intro c hc
    rcases mem_of_mem_countedHost hc with hmem | rfl | rfl
    · exact h c hmem
    · decide
    · decide
  exact ⟨fun c hc => (hcounted c hc).1, fun hat => (hcounted _ (List.mem_of_mem_tail hat)).2 rfl⟩

/-- The URL leads to the configured port exactly if the host is confined, as every plain host
is. -/
theorem sdkUrl_leadsTo_iff {o : ConnectionOptions} {u : Url} (h : o.sdkUrl = .ok u) :
    (u.LeadsTo o.port ↔ Confined o.hostname) ∧
      (Plain o.hostname → u.LeadsTo o.port) := by
  rw [sdkUrl_eq] at h
  have hiff : u.LeadsTo o.port ↔ Confined o.hostname := by
    constructor
    · intro hleads
      have hhost : ∀ c ∈ countedHost o.hostname, endsAuthority c = false := by
        intro c hc
        by_contra hends
        exact not_leadsTo_of_endsAuthority hc (Bool.of_not_eq_false hends) h hleads
      exact ⟨hhost, (leadsTo_iff_of_authority (head?_countedHost _) hhost h).mp hleads⟩
    · rintro ⟨hhost, hat⟩
      exact (leadsTo_iff_of_authority (head?_countedHost _) hhost h).mpr hat
  exact ⟨hiff, fun hplain => hiff.mpr hplain.confined⟩

theorem sdkUrl_leadsTo_iff_names :
    (∃ u, ({ hostname := "vc.example.com", port := 8443 } : ConnectionOptions).sdkUrl = .ok u ∧
      u.LeadsTo 8443) ∧
    ∃ u, ({ hostname := "admin@vc.example.com", port := 8443 } : ConnectionOptions).sdkUrl = .ok u ∧
      ¬ u.LeadsTo 8443 := by
  have hname : ({ hostname := "vc.example.com", port := 8443 } : ConnectionOptions).sdkUrl =
      .ok ⟨.https, "", "", .name "vc.example.com", some 8443, ["sdk"], none, none⟩ := by
    decide +kernel
  have huser : ({ hostname := "admin@vc.example.com", port := 8443 } : ConnectionOptions).sdkUrl =
      .ok ⟨.https, "admin", "", .name "vc.example.com", some 8443, ["sdk"], none, none⟩ := by
    decide +kernel
  exact ⟨⟨_, hname, (sdkUrl_leadsTo_iff hname).2 (by decide)⟩,
    ⟨_, huser, fun hleads => absurd ((sdkUrl_leadsTo_iff huser).1.mp hleads) (by decide)⟩⟩

/-- A slash behind the host takes the port into the path. -/
theorem exists_sdkUrl_not_leadsTo :
    ¬ ∀ (o : ConnectionOptions) (u : Url), o.sdkUrl = .ok u → u.LeadsTo o.port := by
  intro hleads
  have h : ({ hostname := "vc.example.com/", port := 8443 } : ConnectionOptions).sdkUrl =
      .ok ⟨.https, "", "", .name "vc.example.com", none, [":8443", "sdk"], none, none⟩ := by
    decide +kernel
  exact absurd (hleads _ _ h).path (by decide)

end ConnectionOptions

end VcenterAccess
