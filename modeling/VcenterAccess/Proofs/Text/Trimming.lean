import VcenterAccess.Proofs.Text.Validity

/-!
# Texts without what surrounds them

What is left of a trimmed text neither starts nor ends in a blank, so trimming it once
more changes nothing (`trim_trim`).

Bytes that are decoded to a text without the replacement character are the bytes of that
text (`Utf8.toText_eq_iff`).
-/

namespace VcenterAccess.Text

/-! ## Blanks at the ends -/

section

variable {p : Char → Bool} {cs : List Char}

/-- Nothing is cut from a text whose last character stays. -/
theorem dropEndWhile_eq_self (h : ∀ c, cs.getLast? = some c → p c = false) :
    dropEndWhile p cs = cs := by
  rcases List.eq_nil_or_concat cs with rfl | ⟨cs, c, rfl⟩
  · rfl
  · rw [List.concat_eq_append] at h ⊢
    rw [dropEndWhile_concat, h c List.getLast?_concat, if_neg Bool.false_ne_true]

/-- What is left of a text is a start of it. -/
theorem dropEndWhile_prefix : ∀ cs : List Char, dropEndWhile p cs <+: cs
  | [] => List.prefix_rfl
  | c :: cs => by
      unfold dropEndWhile
      split
      · split
        · exact List.nil_prefix
        · exact List.cons_prefix_cons.mpr ⟨rfl, List.nil_prefix⟩
      · exact List.cons_prefix_cons.mpr ⟨rfl, dropEndWhile_prefix cs⟩

end

/-- A trimmed text does not start in a blank. -/
theorem isBlank_head_trim {cs : List Char} {c : Char} (h : (trim cs).head? = some c) :
    isBlank c = false := by
  obtain ⟨rest, hrest⟩ := dropEndWhile_prefix (p := isBlank) (cs.dropWhile isBlank)
  have hhead : (cs.dropWhile isBlank).head? = some c := by
    rw [← hrest, List.head?_append]
    exact congrArg (Option.or · _) h
  have hstart := List.head?_dropWhile_not isBlank cs
  rwa [hhead] at hstart

theorem trim_trim (cs : List Char) : trim (trim cs) = trim cs := by
  have hstart : (trim cs).dropWhile isBlank = trim cs := by
    cases htrim : trim cs with
    | nil => rfl
    | cons c rest =>
        have hblank : isBlank c = false := isBlank_head_trim (htrim ▸ List.head?_cons)
        rw [List.dropWhile_cons_of_neg (Bool.eq_false_iff.mp hblank)]
  rw [trim, hstart]
  exact dropEndWhile_eq_self fun _ => getLast?_dropEndWhile

/-! ## Decoding without a replacement -/

namespace Utf8

/-- A list is known from its values with a default if the default is none of them. -/
theorem eq_map_some_of_getD {α : Type} {d : α} {os : List (Option α)} {as : List α}
    (h : os.map (·.getD d) = as) (hd : d ∉ as) : os = as.map some := by
  subst h
  induction os with
  | nil => rfl
  | cons o os ih =>
      rw [List.map_cons, List.mem_cons, not_or] at hd
      rw [List.map_cons, List.map_cons, ← ih hd.2]
      cases o with
      | none => exact absurd rfl hd.1
      | some a => rfl

theorem toText_eq_iff {bs : List UInt8} {s : String} (hs : '\uFFFD' ∉ s.toList) :
    toText bs = s ↔ bs = ofText s := by
  constructor
  · rintro rfl
    rw [toText, String.toList_ofList] at hs
    rw [toText, ofText, String.toList_ofList]
    exact scan_eq_map_some_iff.mp (eq_map_some_of_getD rfl hs)
  · rintro rfl
    rw [toText, ofText, decodeLossy_encode, String.ofList_toList]

end Utf8

end VcenterAccess.Text
