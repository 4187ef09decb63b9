import Mathlib.Data.List.TakeDrop
import Mathlib.Data.List.TakeWhile
import VcenterAccess.Proofs.Text.Endings
import VcenterAccess.Proofs.Text.Trimming
import VcenterAccess.Url.Parse

/-!
# Where the parts of a URL stand

The authority of a URL goes up to the first character that ends it
(`readAuthority_append`).  In it user information goes up to the last at sign.  There is none
of it exactly if there is no at sign but at the start (`splitUserInfo_fst_eq_nil_iff`).

A question mark or a number sign behind the authority makes a query or a fragment
(`readSuffix_ne_none`).  Otherwise all that follows is path, and segments at its end that are
no dots stay (`suffix_appendSegments`).
-/

namespace VcenterAccess.Url

open Text

theorem span_append_cons {α : Type} {p : α → Bool} {before after : List α} {a : α}
    (hbefore : ∀ b ∈ before, p b = true) (ha : p a = false) :
    (before ++ a :: after).span p = (before, a :: after) := by
  have hstop : ¬ p a = true := Bool.eq_false_iff.mp ha
  rw [List.span_eq_takeWhile_dropWhile, List.takeWhile_append_of_pos hbefore,
    List.dropWhile_append_of_pos hbefore, List.takeWhile_cons_of_neg hstop,
    List.dropWhile_cons_of_neg hstop, List.append_nil]

/-! ## Scheme -/

/-- Whether a character is neither a tab nor the end of a line. -/
def isCounted (c : Char) : Bool := c ≠ '\t' && c ≠ '\n' && c ≠ '\r'

theorem significant_eq_filter {cs : List Char}
    (hstart : ∀ c, cs.head? = some c → isControlOrBlank c = false)
    (hend : ∀ c, cs.getLast? = some c → isControlOrBlank c = false) :
    significant cs = cs.filter isCounted := by
  have hkept : cs.dropWhile isControlOrBlank = cs := by
    cases cs with
    | nil => rfl
    | cons c cs => exact List.dropWhile_cons_of_neg (Bool.eq_false_iff.mp (hstart c rfl))
  rw [significant, hkept, dropEndWhile_eq_self hend]
  rfl

theorem splitScheme?_https (rest : List Char) :
    splitScheme? ("https".toList ++ ':' :: rest) = some ("https".toList, rest) := by
  have hspan : ("https".toList ++ ':' :: rest).span isSchemeChar = ("https".toList, ':' :: rest) :=
    span_append_cons (List.all_eq_true.mp (by decide)) (by decide)
  unfold splitScheme?
  rw [hspan]
  rfl

/-! ## User information -/

theorem splitAtLastAt?_eq_none_iff {cs : List Char} : splitAtLastAt? cs = none ↔ '@' ∉ cs := by
  induction cs with
  | nil => simp [splitAtLastAt?]
  | cons c cs ih =>
      rw [List.mem_cons, not_or, splitAtLastAt?, ← ih]
      cases hsplit : splitAtLastAt? cs with
      | some split => simp
      | none =>
          by_cases hc : c = '@'
          · simp [hc]
          · simp [hc, Ne.symm hc]

theorem splitAtLastAt?_eq_some {cs before after : List Char}
    (h : splitAtLastAt? cs = some (before, after)) :
    cs = before ++ '@' :: after ∧ '@' ∉ after := by
  induction cs generalizing before with
  | nil => cases h
  | cons c cs ih =>
      rw [splitAtLastAt?] at h
      split at h
      · next before' after' hsplit =>
        cases h
        obtain ⟨rfl, hafter⟩ := ih hsplit
        exact ⟨rfl, hafter⟩
      · next hnone =>
        split at h
        · next hat =>
          cases h
          exact ⟨hat ▸ rfl, splitAtLastAt?_eq_none_iff.mp hnone⟩
        · cases h

/-- User information, and what stands after it. -/
def splitUserInfo (authority : List Char) : List Char × List Char :=
  (splitAtLastAt? authority).getD ([], authority)

/-- There is no user information if there is no at sign but at the start. -/
theorem splitUserInfo_fst_eq_nil_iff {authority : List Char} :
    (splitUserInfo authority).1 = [] ↔ '@' ∉ authority.tail := by
  unfold splitUserInfo
  cases hsplit : splitAtLastAt? authority with
  | none =>
      have hnone := splitAtLastAt?_eq_none_iff.mp hsplit
      exact iff_of_true rfl fun h => hnone (List.mem_of_mem_tail h)
  | some split =>
      obtain ⟨before, after⟩ := split
      obtain ⟨rfl, hafter⟩ := splitAtLastAt?_eq_some hsplit
      cases before with
      | nil => exact iff_of_true rfl hafter
      | cons c before => simp

/-- User information stands at the start. -/
theorem head?_eq_of_splitUserInfo {authority info : List Char} {c : Char}
    (h : (splitUserInfo authority).1 = c :: info) : authority.head? = some c := by
  unfold splitUserInfo at h
  cases hsplit : splitAtLastAt? authority with
  | none =>
      rw [hsplit] at h
      cases h
  | some split =>
      obtain ⟨before, after⟩ := split
      obtain ⟨rfl, -⟩ := splitAtLastAt?_eq_some hsplit
      rw [hsplit] at h
      obtain rfl : before = c :: info := h
      rfl

/-- What has no at sign at the end of an authority is no user information. -/
theorem splitUserInfo_snd_append (cs : List Char) {t : List Char} (ht : '@' ∉ t) :
    ∃ before, (splitUserInfo (cs ++ t)).2 = before ++ t := by
  unfold splitUserInfo
  cases hsplit : splitAtLastAt? (cs ++ t) with
  | none => exact ⟨cs, rfl⟩
  | some split =>
      obtain ⟨before, after⟩ := split
      obtain ⟨heq, -⟩ := splitAtLastAt?_eq_some hsplit
      rcases List.append_eq_append_iff.mp heq with ⟨between, -, rfl⟩ | ⟨between, rfl, hafter⟩
      · exact absurd (List.mem_append_right _ (List.mem_cons_self ..)) ht
      · cases between with
        | nil =>
            rw [List.nil_append] at hafter
            exact absurd (hafter ▸ List.mem_cons_self ..) ht
        | cons c between =>
            obtain ⟨-, rfl⟩ := List.cons.inj hafter
            exact ⟨between, rfl⟩

theorem percentEncode_cons_ne_nil (escapes : Char → Bool) (c : Char) (cs : List Char) :
    percentEncode escapes (c :: cs) ≠ [] := by
  intro h
  rw [percentEncode, List.flatMap_cons, List.append_eq_nil_iff] at h
  obtain ⟨hfirst, -⟩ := h
  split at hfirst
  · obtain ⟨b, bs, hbytes⟩ := List.exists_cons_of_ne_nil (String.utf8EncodeChar_ne_nil (c := c))
    rw [hbytes] at hfirst
    cases hfirst
  · cases hfirst

/-- A user is named unless a colon comes first. -/
theorem readUserInfo_fst_ne_empty {c : Char} (hc : c ≠ ':') (cs : List Char) :
    (readUserInfo (c :: cs)).1 ≠ "" := by
  intro h
  unfold readUserInfo at h
  rw [List.span_eq_takeWhile_dropWhile, List.takeWhile_cons_of_pos (by simpa using hc)] at h
  exact percentEncode_cons_ne_nil _ _ _ (String.ofList_eq_empty_iff.mp h)

/-- Nobody is named exactly if there is no user information, unless it starts with a colon. -/
theorem readUserInfo_eq_empty_iff {authority : List Char}
    (hstart : authority.head? = some ':' → '@' ∉ authority.tail) :
    readUserInfo (splitUserInfo authority).1 = ("", "") ↔ '@' ∉ authority.tail := by
  rw [← splitUserInfo_fst_eq_nil_iff]
  cases hinfo : (splitUserInfo authority).1 with
  | nil => exact iff_of_true rfl rfl
  | cons c info =>
      have hc : c ≠ ':' := by
        rintro rfl
        have hnil := splitUserInfo_fst_eq_nil_iff.mpr (hstart (head?_eq_of_splitUserInfo hinfo))
        cases hinfo.symm.trans hnil
      exact iff_of_false (fun h => readUserInfo_fst_ne_empty hc info (Prod.mk.inj h).1)
        (List.cons_ne_nil c info)

/-! ## Query and fragment -/

/-- A character before the query and the fragment. -/
def beforeSuffix (c : Char) : Bool := c ≠ '?' && c ≠ '#'

theorem splitSuffix_eq_self {rest : List Char} (h : ∀ c ∈ rest, beforeSuffix c = true) :
    splitSuffix rest = (rest, []) := by
  rw [splitSuffix, List.span_eq_takeWhile_dropWhile]
  exact Prod.ext (List.takeWhile_eq_self_iff.mpr h) (List.dropWhile_eq_nil_iff.mpr h)

/-- There is a query or a fragment where a question mark or a number sign is. -/
theorem readSuffix_ne_none {rest : List Char} {c : Char} (hc : c ∈ rest)
    (hends : beforeSuffix c = false) :
    (readSuffix (splitSuffix rest).2).1 ≠ none ∨ (readSuffix (splitSuffix rest).2).2 ≠ none := by
  rw [splitSuffix, List.span_eq_takeWhile_dropWhile]
  change (readSuffix (rest.dropWhile beforeSuffix)).1 ≠ none ∨
    (readSuffix (rest.dropWhile beforeSuffix)).2 ≠ none
  cases hsuffix : rest.dropWhile beforeSuffix with
  | nil => exact absurd (List.dropWhile_eq_nil_iff.mp hsuffix c hc) (Bool.eq_false_iff.mp hends)
  | cons d suffix =>
      have hstart := List.head?_dropWhile_not beforeSuffix rest
      rw [hsuffix, List.head?_cons] at hstart
      simp only [beforeSuffix, Bool.and_eq_false_iff, decide_eq_false_iff_not, not_not] at hstart
      rcases hstart with rfl | rfl
      · exact .inl (by simp [readSuffix, List.span_eq_takeWhile_dropWhile])
      · exact .inr (by simp [readSuffix, List.span_eq_takeWhile_dropWhile])

/-! ## Paths -/

theorem mem_percentEncode {escapes : Char → Bool} {c : Char} (hc : escapes c = false)
    {cs : List Char} (h : c ∈ cs) : c ∈ percentEncode escapes cs :=
  List.mem_flatMap.mpr ⟨c, h, by simp [hc]⟩

/-- Whether a segment stands for a place. -/
def isPlain (s : List Char) : Bool := !isSingleDot s && !isDoubleDot s

/-- The segment as it is written in a path. -/
def pathSegment (s : List Char) : String := String.ofList (percentEncode escapesInPath s)

theorem appendSegments_of_plain (path : List String) {ss : List (List Char)}
    (h : ∀ s ∈ ss, isPlain s = true) : appendSegments path ss = path ++ ss.map pathSegment := by
  induction ss generalizing path with
  | nil => rw [appendSegments, List.map_nil, List.append_nil]
  | cons s ss ih =>
      obtain ⟨hs, hss⟩ := List.forall_mem_cons.mp h
      simp only [isPlain, Bool.and_eq_true, Bool.not_eq_true'] at hs
      simp only [appendSegments, hs, Bool.or_self, Bool.and_false, Bool.false_eq_true, if_false,
        ih _ hss, List.append_assoc]
      rfl

/-- Plain segments stay at the end of a path. -/
theorem suffix_appendSegments (path : List String) (before : List (List Char))
    {after : List (List Char)} (h : ∀ s ∈ after, isPlain s = true) (hne : after ≠ []) :
    after.map pathSegment <:+ appendSegments path (before ++ after) := by
  induction before generalizing path with
  | nil => exact ⟨path, (appendSegments_of_plain path h).symm⟩
  | cons s before ih =>
      have hmore : (before ++ after).isEmpty = false := by simp [hne]
      rw [List.cons_append, appendSegments]
      simp only [hmore, Bool.false_and, Bool.false_eq_true, if_false]
      exact ih _

/-- Whatever has a colon stands for no place. -/
theorem isPlain_of_colon {s : List Char} (h : ':' ∈ s) : isPlain s = true := by
  have hsmall : ':' ∈ s.map Char.toLower := List.mem_map.mpr ⟨':', h, rfl⟩
  have hsingle : isSingleDot s = false := by
    refine Bool.eq_false_iff.mpr fun hdot => ?_
    rw [isSingleDot, Bool.or_eq_true, decide_eq_true_iff, decide_eq_true_iff] at hdot
    rcases hdot with hdot | hdot
    · exact absurd (hdot ▸ h) (by decide)
    · exact absurd (hdot ▸ hsmall) (by decide)
  have hdouble : isDoubleDot s = false := by
    refine Bool.eq_false_iff.mpr fun hdot => ?_
    have hcolon : ':' ∈ (String.ofList (s.map Char.toLower)).toList := by
      rw [String.toList_ofList]
      exact hsmall
    have hdots : ∀ dots ∈ ["..", ".%2e", "%2e.", "%2e%2e"], ':' ∉ dots.toList := by decide
    exact hdots _ (List.contains_iff_mem.mp hdot) hcolon
  rw [isPlain, hsingle, hdouble]
  rfl

theorem mem_joinWith {separator s : String} {ss : List String} {c : Char} (hs : s ∈ ss)
    (hc : c ∈ s.toList) : c ∈ (joinWith separator ss).toList := by
  induction ss using joinWith.induct with
  | case1 => cases hs
  | case2 s' =>
      obtain rfl := List.mem_singleton.mp hs
      exact hc
  | case3 s' ss hss ih =>
      rw [joinWith, String.toList_append, String.toList_append]
      · rcases List.mem_cons.mp hs with rfl | hs
        · exact List.mem_append_left _ (List.mem_append_left _ hc)
        · exact List.mem_append_right _ (ih hs)
      · exact hss

/-! ## Authorities -/

/-- The parts of a URL whose authority is known. -/
theorem readAuthority_append {scheme : WebScheme} {authority rest : List Char} {c : Char} {u : Url}
    (hauthority : ∀ d ∈ authority, endsAuthority d = false) (hc : endsAuthority c = true)
    (h : readAuthority scheme (authority ++ c :: rest) = .ok u) :
    ∃ host port,
      Host.parse (splitHost false (splitUserInfo authority).2).1 = .ok host ∧
      readPort scheme (splitHost false (splitUserInfo authority).2).2 = .ok port ∧
      u = {
        scheme
        username := (readUserInfo (splitUserInfo authority).1).1
        password := (readUserInfo (splitUserInfo authority).1).2
        host
        port
        path := appendSegments [] (segments ((splitSuffix (c :: rest)).1.drop 1))
        query := (readSuffix (splitSuffix (c :: rest)).2).1
        fragment := (readSuffix (splitSuffix (c :: rest)).2).2 } := by
  have hspan : (authority ++ c :: rest).span (!endsAuthority ·) = (authority, c :: rest) :=
    span_append_cons (fun d hd => by rw [hauthority d hd, Bool.not_false])
      (by rw [hc, Bool.not_true])
  unfold readAuthority at h
  rw [hspan] at h
  change (Host.parse (splitHost false (splitUserInfo authority).2).1 >>= fun host =>
    readPort scheme (splitHost false (splitUserInfo authority).2).2 >>= fun port => _) = _ at h
  cases hhost : Host.parse (splitHost false (splitUserInfo authority).2).1 with
  | error e =>
      rw [hhost] at h
      cases h
  | ok host =>
      cases hport : readPort scheme (splitHost false (splitUserInfo authority).2).2 with
      | error e =>
          rw [hhost, hport] at h
          cases h
      | ok port =>
          rw [hhost, hport] at h
          exact ⟨host, port, rfl, rfl, (Except.ok.inj h).symm⟩

end VcenterAccess.Url
