import Mathlib.Data.Option.Basic
import VcenterAccess.Proofs.Secret.Parsing
import VcenterAccess.Proofs.Text.Decoding

/-!
# Line feeds after values

A payload is read through the texts of its values and nothing else (`parse_congr`).  A
line feed after some bytes is decoded as a line feed, even if the bytes break off inside
a character (`Utf8.decodeLossy_append_newlines`), and all line feeds at the end of a text
are cut.  So it does not matter how many of them follow a value, whatever is wrong with
the value or with the payload.
-/

namespace VcenterAccess

open Text

/-- Line feeds after some bytes are decoded as themselves, as no character that is still open
could go on with one. -/
theorem Text.Utf8.decodeLossy_append_newlines (bytes : List UInt8) (n : Nat) :
    decodeLossy (bytes ++ List.replicate n 0x0A) = decodeLossy bytes ++ List.replicate n '\n' := by
  induction n with
  | zero => rw [List.replicate_zero, List.replicate_zero, List.append_nil, List.append_nil]
  | succ n ih =>
      rw [List.replicate_succ', List.replicate_succ', ← List.append_assoc, ← List.append_assoc, ← ih]
      have hscan := scan_concat_ascii (b := 0x0A) (by decide) (bytes ++ List.replicate n 0x0A) none
        nofun
      rw [decodeLossy, hscan, List.map_append]
      rfl

namespace SecretPayload

variable {p q : SecretPayload}

theorem decodeValue_append_newlines (bytes : List UInt8) (n : Nat) :
    decodeValue (bytes ++ List.replicate n 0x0A) = decodeValue bytes := by
  rw [decodeValue, Utf8.decodeLossy_append_newlines, trimNewlines_append_replicate, decodeValue]

/-- What is read of a key and the text of its value. -/
def readText (e : String × String) : Except ParseError Item :=
  match SecretKey.classify? e.1 with
  | some key => .ok (key, e.2)
  | none => .error (.unknownKey e.1)

/-- The texts under the keys of a payload. -/
def texts (p : SecretPayload) : Table String := p.map decodeValue

theorem mapM_readItem (p : SecretPayload) :
    p.toList.mapM readItem = p.texts.toList.mapM readText := by
  change _ = (p.toList.map fun e => (e.1, decodeValue e.2)).mapM readText
  rw [List.mapM_map]
  rfl

theorem isEmpty_texts (p : SecretPayload) : p.texts.isEmpty = p.isEmpty := List.isEmpty_map

/-- Payloads with the same texts under the same keys are read alike. -/
theorem parse_congr (h : p.texts = q.texts) : p.parse = q.parse := by
  unfold parse
  rw [← isEmpty_texts, ← isEmpty_texts, mapM_readItem, mapM_readItem, h]

/-! ## Values that differ in line feeds -/

/-- The bytes are the same up to the line feeds at their ends. -/
def SameUpToNewlines (a b : List UInt8) : Prop :=
  ∃ bytes m n, a = bytes ++ List.replicate m 0x0A ∧ b = bytes ++ List.replicate n 0x0A

theorem SameUpToNewlines.decodeValue_eq {a b : List UInt8} (h : SameUpToNewlines a b) :
    decodeValue a = decodeValue b := by
  obtain ⟨bytes, m, n, rfl, rfl⟩ := h
  rw [decodeValue_append_newlines, decodeValue_append_newlines]

/-- Payloads with the same keys, whose values are the same up to the line feeds at their
ends, are read alike: as the same table, or with the same error. -/
theorem parse_eq_of_newlines
    (h : ∀ k, Option.Rel SameUpToNewlines (p.get? k) (q.get? k)) : p.parse = q.parse := by
  refine parse_congr (Table.ext_get? fun k => ?_)
  have hk := h k
  rw [texts, texts, Table.get?_map, Table.get?_map]
  generalize p.get? k = a, q.get? k = b at hk
  cases hk with
  | some hsame => exact congrArg some hsame.decodeValue_eq
  | none => rfl

/-- A user that breaks off inside a character, and a password with line feeds around it. -/
def brokenOff (m n : Nat) : SecretPayload :=
  Table.ofList [("a.username", [0x75, 0xE2, 0x82] ++ List.replicate m 0x0A),
    ("a.password", [0x0A, 0x70] ++ List.replicate n 0x0A)]

/-- The part of the character that is there counts, the line feeds after it do not. -/
theorem parse_eq_of_newlines_brokenOff :
    (∀ k, Option.Rel SameUpToNewlines ((brokenOff 0 3).get? k) ((brokenOff 2 0).get? k)) ∧
      (brokenOff 0 3).parse = (brokenOff 2 0).parse ∧
      (brokenOff 2 0).parse =
        .ok (Table.ofList [("a", { user := "u\uFFFD", password := "\np" })]) := by
  have h : ∀ k, Option.Rel SameUpToNewlines ((brokenOff 0 3).get? k) ((brokenOff 2 0).get? k) := by
    intro k
    simp only [brokenOff, Table.ofList, List.foldl_cons, List.foldl_nil, Table.get?_insert]
    split
    · exact .some ⟨_, _, _, rfl, rfl⟩
    · split
      · exact .some ⟨_, _, _, rfl, rfl⟩
      · exact .none
  exact ⟨h, parse_eq_of_newlines h, toOption_eq_some_iff.mp (by decide +kernel)⟩

end SecretPayload

end VcenterAccess
