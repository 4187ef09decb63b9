import VcenterAccess.Certificate.Basic

/-!
# The frame of a PEM document

What is read as a PEM document has a frame around its body: two boundary lines that carry
the same label (`Pem.framed_of_parse?`).  So it has some length, also without the line ends
behind it, and the loader of a chain of certificates has something to read
(`Certificate.two_le_length_of_framed`).

The loader only finds no certificate if it has nothing to read
(`Certificate.readChain?_ne_nil`).
-/

namespace VcenterAccess

open Text

/-! ## Frames -/

namespace Pem

/-- The ends of a line. -/
def lineEnds : List (List UInt8) := [[0x0D, 0x0A], [0x0D], [0x0A]]

/-- Bytes with an envelope in them: a preamble, a line that opens it, the lines of the body,
a line that closes it, and perhaps one more line end. -/
def Framed (bs : List UInt8) (e : Envelope) : Prop :=
  ∃ preamble first second last, first ∈ lineEnds ∧ second ∈ lineEnds ∧ last ∈ [] :: lineEnds ∧
    bs = preamble ++ (opening ++ e.label ++ dashes ++ first) ++ e.body ++
      (second ++ closing ++ e.label ++ dashes) ++ last

variable {bs rest : List UInt8}

theorem passPreamble?_suffix {atLine : Bool} (h : passPreamble? atLine bs = some rest) :
    rest <:+ bs := by
  induction bs generalizing atLine with
  | nil => cases h
  | cons b bs ih =>
      unfold passPreamble? at h
      split at h
      · cases h
        exact List.suffix_rfl
      · split at h
        · cases h
        · exact (ih h).trans (List.suffix_cons b bs)

theorem readLabel?_append {blankAllowed : Bool} {label : List UInt8}
    (h : readLabel? blankAllowed bs = some (label, rest)) : bs = label ++ rest := by
  induction bs generalizing blankAllowed label with
  | nil =>
      cases h
      rfl
  | cons b bs ih =>
      unfold readLabel? at h
      split at h
      · cases h
        rfl
      · split at h
        · obtain ⟨⟨label', rest'⟩, hread, heq⟩ := Option.map_eq_some_iff.mp h
          cases heq
          rw [ih hread, List.cons_append]
        · split at h
          · obtain ⟨⟨label', rest'⟩, hread, heq⟩ := Option.map_eq_some_iff.mp h
            cases heq
            rw [ih hread, List.cons_append]
          · cases h

theorem exists_of_stripLineEnd? (h : stripLineEnd? bs = some rest) :
    ∃ lineEnd ∈ lineEnds, bs = lineEnd ++ rest := by
  unfold stripLineEnd? at h
  split at h <;> cases h
  · exact ⟨[0x0D, 0x0A], by decide, rfl⟩
  · exact ⟨[0x0D], by decide, rfl⟩
  · exact ⟨[0x0A], by decide, rfl⟩

theorem exists_of_stripLastLineEnd? (h : stripLastLineEnd? bs = some rest) :
    ∃ lineEnd ∈ lineEnds, bs = rest ++ lineEnd := by
  rcases Option.or_eq_some_iff.mp h with h | ⟨-, h⟩
  · rcases Option.or_eq_some_iff.mp h with h | ⟨-, h⟩
    · exact ⟨_, by decide, stripEnd?_eq_some_iff.mp h⟩
    · exact ⟨_, by decide, stripEnd?_eq_some_iff.mp h⟩
  · exact ⟨_, by decide, stripEnd?_eq_some_iff.mp h⟩

theorem exists_of_getD_stripLastLineEnd? (bs : List UInt8) :
    ∃ last ∈ [] :: lineEnds, bs = (stripLastLineEnd? bs).getD bs ++ last := by
  cases h : stripLastLineEnd? bs with
  | none => exact ⟨[], List.mem_cons_self .., (List.append_nil bs).symm⟩
  | some rest =>
      obtain ⟨last, hlast, heq⟩ := exists_of_stripLastLineEnd? h
      exact ⟨last, List.mem_cons_of_mem _ hlast, heq⟩

theorem framed_of_parse? {e : Envelope} (h : parse? bs = some e) : Framed bs e := by
  unfold parse? at h
  obtain ⟨opened, hpreamble, h⟩ := Option.bind_eq_some_iff.mp h
  obtain ⟨labelled, hopening, h⟩ := Option.bind_eq_some_iff.mp h
  obtain ⟨⟨label, dashed⟩, hlabel, h⟩ := Option.bind_eq_some_iff.mp h
  obtain ⟨lined, hdashes, h⟩ := Option.bind_eq_some_iff.mp h
  obtain ⟨closed, hfirst, h⟩ := Option.bind_eq_some_iff.mp h
  obtain ⟨ended, hclosing, h⟩ := Option.bind_eq_some_iff.mp h
  obtain ⟨body, hsecond, h⟩ := Option.bind_eq_some_iff.mp h
  cases h
  obtain ⟨preamble, rfl⟩ := passPreamble?_suffix hpreamble
  obtain rfl := stripStart?_eq_some_iff.mp hopening
  obtain rfl := readLabel?_append hlabel
  obtain rfl := stripStart?_eq_some_iff.mp hdashes
  obtain ⟨first, hmem, rfl⟩ := exists_of_stripLineEnd? hfirst
  obtain ⟨last, hlast, hclosed⟩ := exists_of_getD_stripLastLineEnd? closed
  obtain ⟨second, hmem', rfl⟩ := exists_of_stripLastLineEnd? hsecond
  rw [stripEnd?_eq_some_iff.mp hclosing] at hclosed
  refine ⟨preamble, first, second, last, hmem, hmem', hlast, ?_⟩
  rw [hclosed]
  simp only [List.append_assoc]

end Pem

/-! ## Reading a chain -/

namespace Certificate

/-- What is left without the line ends behind it. -/
def withoutLineEnds (bytes : List UInt8) : List UInt8 :=
  (bytes.reverse.dropWhile isLineEnd).reverse

theorem withoutLineEnds_append {bytes last : List UInt8} (hlast : last.all isLineEnd = true) :
    withoutLineEnds (bytes ++ last) = withoutLineEnds bytes := by
  rw [withoutLineEnds, List.reverse_append, List.dropWhile_append_of_pos, ← withoutLineEnds]
  exact fun b hb => List.all_eq_true.mp hlast b (List.mem_reverse.mp hb)

theorem withoutLineEnds_concat {bytes : List UInt8} {b : UInt8} (hb : ¬ isLineEnd b = true) :
    withoutLineEnds (bytes ++ [b]) = bytes ++ [b] := by
  rw [withoutLineEnds, List.reverse_append, List.reverse_singleton, List.singleton_append,
    List.dropWhile_cons_of_neg hb, List.reverse_cons, List.reverse_reverse]

theorem two_le_length_of_framed {bytes : List UInt8} {e : Pem.Envelope} (h : Pem.Framed bytes e) :
    2 ≤ (withoutLineEnds bytes).length := by
  obtain ⟨preamble, first, second, last, -, -, hlast, rfl⟩ := h
  have hends : ∀ last ∈ [] :: Pem.lineEnds, last.all isLineEnd = true := by decide
  have hdashes : Pem.dashes = [0x2D, 0x2D, 0x2D, 0x2D] ++ [0x2D] := rfl
  rw [withoutLineEnds_append (hends last hlast), hdashes]
  simp only [← List.append_assoc]
  rw [withoutLineEnds_concat (by decide)]
  simp only [List.length_append, List.length_cons]
  omega

/-- A chain without certificates is read from nothing. -/
theorem readChain?_ne_nil {bytes : List UInt8} (h : 2 ≤ bytes.length) :
    readChain? bytes ≠ some [] := by
  intro hchain
  rw [readChain?, if_neg (by omega)] at hchain
  split at hchain
  · cases hchain
  · split at hchain
    · cases hchain
    · split at hchain
      · obtain ⟨later, -, hnil⟩ := Option.map_eq_some_iff.mp hchain
        cases hnil
      · cases hchain

theorem withoutLineEnds_length_le (bytes : List UInt8) :
    (withoutLineEnds bytes).length ≤ bytes.length := by
  have hsuffix := (List.dropWhile_suffix isLineEnd (l := bytes.reverse)).length_le
  rwa [List.length_reverse, ← List.length_reverse, ← withoutLineEnds] at hsuffix

end Certificate

end VcenterAccess
