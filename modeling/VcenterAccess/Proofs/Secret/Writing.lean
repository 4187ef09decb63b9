import VcenterAccess.Proofs.Secret.Parsing
import VcenterAccess.Proofs.Text.Decoding

/-!
# Writing payloads

A table of records is written as a payload by giving each field that is set a key
of its own (`Grouping.write`).  The value of a key is the text of the field as
UTF-8, and line feeds may follow it, as they do in values that come from files.

What was written is gathered again (`Grouping.gathered_write`), if its keys can
be read and no field ends in a line feed itself.
-/

namespace VcenterAccess

open Text

/-! ## Values -/

namespace SecretPayload

/-- The bytes of a text with line feeds after it. -/
def encodeValue (lines : Nat) (value : String) : List UInt8 :=
  Utf8.ofText value ++ List.replicate lines 0x0A

theorem encode_replicate_newline (n : Nat) :
    Utf8.encode (List.replicate n '\n') = List.replicate n 0x0A := by
  induction n with
  | zero => rfl
  | succ n ih =>
      rw [List.replicate_succ, List.replicate_succ, ← ih]
      rfl

/-- A text is read back, however many line feeds follow it. -/
theorem decodeValue_encodeValue {value : String} (h : ¬ EndsInNewline value) (lines : Nat) :
    decodeValue (encodeValue lines value) = value := by
  have hbytes : encodeValue lines value =
      Utf8.encode (value.toList ++ List.replicate lines '\n') := by
    rw [encodeValue, ← encode_replicate_newline]
    exact List.flatMap_append.symm
  rw [hbytes, decodeValue, Utf8.decodeLossy_encode, trimNewlines_append_replicate,
    trimNewlines_eq_self h, String.ofList_toList]

theorem not_endsInNewline_decodeValue (bytes : List UInt8) :
    ¬ EndsInNewline (decodeValue bytes) := by
  intro h
  rw [EndsInNewline, decodeValue, String.toList_ofList] at h
  exact absurd (getLast?_dropEndWhile h) (by decide)

theorem not_endsInNewline_textAt (p : SecretPayload) (k : String) :
    ¬ EndsInNewline (p.textAt k) := by
  unfold textAt
  cases p.get? k with
  | none => decide
  | some bytes => exact not_endsInNewline_decodeValue bytes

end SecretPayload

/-! ## Records -/

namespace Grouping

open SecretPayload

variable {γ φ : Type} [DecidableEq φ] (G : Grouping γ φ) {fields : List φ}
  {lines : String → Nat} {t : Table γ} {n : String} {c : γ}

/-- A field of a record as an entry of a payload. -/
def entry (lines : String → Nat) (n : String) (c : γ) (f : φ) : String × List UInt8 :=
  ((G.key n f).text, encodeValue (lines (G.key n f).text) (G.field c f))

/-- The payload with an entry for each field that is set.  After the value of a
key there are as many line feeds as `lines` says. -/
def write (fields : List φ) (lines : String → Nat) (t : Table γ) : SecretPayload :=
  Table.ofList (t.toList.flatMap fun e =>
    (fields.filter fun f => G.field e.2 f ≠ "").map (G.entry lines e.1 e.2))

/-- Tables whose records can be read back. -/
structure Writable (t : Table γ) : Prop where
  readable : ∀ n c f, t.get? n = some c →
    SecretKey.classify? (G.key n f).text = some (G.key n f)
  /-- Some field of a record is set. -/
  set : ∀ n c, t.get? n = some c → ∃ f, G.field c f ≠ ""
  trimmed : ∀ n c f, t.get? n = some c → ¬ EndsInNewline (G.field c f)

variable {G}

/-- Records whose fields share a key are under one name, and it is the key of one field. -/
theorem Writable.key_inj (h : G.Writable t) {m : String} {d : γ} {f g : φ}
    (hn : t.get? n = some c) (hm : t.get? m = some d) (hkey : (G.key n f).text = (G.key m g).text) :
    n = m ∧ f = g := by
  have hread := h.readable n c f hn
  rw [hkey, h.readable m d g hm] at hread
  exact (G.key_inj (Option.some.inj hread)).imp Eq.symm Eq.symm

theorem Writable.get?_write (h : G.Writable t) (hfields : ∀ f, f ∈ fields) {k : String}
    {bytes : List UInt8} :
    (G.write fields lines t).get? k = some bytes ↔
      ∃ n c f, t.get? n = some c ∧ G.field c f ≠ "" ∧ G.entry lines n c f = (k, bytes) := by
  have hmem : ∀ e, (e ∈ t.toList.flatMap fun e =>
      (fields.filter fun f => G.field e.2 f ≠ "").map (G.entry lines e.1 e.2)) ↔
      ∃ n c f, t.get? n = some c ∧ G.field c f ≠ "" ∧ G.entry lines n c f = e := by
    intro e
    simp only [List.mem_flatMap, List.mem_map, List.mem_filter, decide_eq_true_eq, hfields,
      true_and, Prod.exists, Table.get?_eq_some_iff, exists_and_left]
  rw [← hmem]
  refine Table.get?_ofList fun a b ha hb => ?_
  obtain ⟨n, c, f, hn, -, he⟩ := (hmem _).mp ha
  obtain ⟨m, d, g, hm, -, he'⟩ := (hmem _).mp hb
  obtain ⟨hk, rfl⟩ := Prod.mk.inj he
  obtain ⟨hk', rfl⟩ := Prod.mk.inj he'
  obtain ⟨rfl, rfl⟩ := h.key_inj hn hm (hk.trans hk'.symm)
  rw [hn] at hm
  rw [Option.some.inj hm]

/-- Every key of the payload is the key of some field. -/
theorem Writable.contains_write (h : G.Writable t) (hfields : ∀ f, f ∈ fields) {k : String} :
    (G.write fields lines t).contains k = true ↔
      ∃ n c f, t.get? n = some c ∧ G.field c f ≠ "" ∧ (G.key n f).text = k := by
  rw [Table.contains_iff]
  constructor
  · rintro ⟨bytes, hget⟩
    obtain ⟨n, c, f, hn, hf, he⟩ := (h.get?_write hfields).mp hget
    exact ⟨n, c, f, hn, hf, (Prod.mk.inj he).1⟩
  · rintro ⟨n, c, f, hn, hf, rfl⟩
    exact ⟨_, (h.get?_write hfields).mpr ⟨n, c, f, hn, hf, rfl⟩⟩

theorem Writable.classify?_of_contains (h : G.Writable t) (hfields : ∀ f, f ∈ fields) {k : String}
    (hk : (G.write fields lines t).contains k = true) :
    ∃ n c f, t.get? n = some c ∧ G.field c f ≠ "" ∧ SecretKey.classify? k = some (G.key n f) := by
  obtain ⟨n, c, f, hn, hf, rfl⟩ := (h.contains_write hfields).mp hk
  exact ⟨n, c, f, hn, hf, h.readable n c f hn⟩

/-- The text of a field's key is the field, as a field that is set has its key. -/
theorem Writable.textAt_write (h : G.Writable t) (hfields : ∀ f, f ∈ fields)
    (hn : t.get? n = some c) (f : φ) :
    (G.write fields lines t).textAt (G.key n f).text = G.field c f := by
  unfold textAt
  cases hget : (G.write fields lines t).get? (G.key n f).text with
  | none =>
      by_contra hne
      have hf : G.field c f ≠ "" := fun h => hne h.symm
      rw [(h.get?_write hfields).mpr ⟨n, c, f, hn, hf, rfl⟩] at hget
      cases hget
  | some bytes =>
      obtain ⟨m, d, g, hm, -, he⟩ := (h.get?_write hfields).mp hget
      obtain ⟨hkey, rfl⟩ := Prod.mk.inj he
      obtain ⟨rfl, rfl⟩ := h.key_inj hm hn hkey
      rw [hm] at hn
      obtain rfl := Option.some.inj hn
      exact decodeValue_encodeValue (h.trimmed m d g hm) _

/-- What was written is gathered again. -/
theorem Writable.gathered_write (h : G.Writable t) (hfields : ∀ f, f ∈ fields) :
    (G.write fields lines t).items.foldl G.gather ∅ = t := by
  refine Table.ext_get? fun n => Option.ext fun c => ?_
  rw [G.get?_gathered]
  constructor
  · rintro ⟨⟨k, f, hk, hkey⟩, hc⟩
    obtain ⟨m, d, g, hm, -, hread⟩ := h.classify?_of_contains hfields hk
    rw [hread] at hkey
    obtain ⟨rfl, -⟩ := G.key_inj (Option.some.inj hkey)
    rw [hm]
    exact congrArg some (G.field_ext fun f => (h.textAt_write hfields hm f).symm.trans (hc f).symm)
  · intro hn
    obtain ⟨f, hf⟩ := h.set n c hn
    refine ⟨⟨_, f, (h.contains_write hfields).mpr ⟨n, c, f, hn, hf, rfl⟩,
      h.readable n c f hn⟩, fun g => (h.textAt_write hfields hn g).symm⟩

/-- Every key of the payload can be read. -/
theorem Writable.known (h : G.Writable t) (hfields : ∀ f, f ∈ fields) (k : String) :
    ¬ (G.write fields lines t).UnknownKey k := by
  rintro ⟨hk, hnone⟩
  obtain ⟨n, c, f, -, -, hread⟩ := h.classify?_of_contains hfields hk
  rw [hread] at hnone
  cases hnone

theorem Writable.isEmpty_write (h : G.Writable t) (hfields : ∀ f, f ∈ fields)
    (ht : t.isEmpty = false) : (G.write fields lines t).isEmpty = false := by
  obtain ⟨n, hn⟩ := Table.isEmpty_eq_false_iff.mp ht
  obtain ⟨c, hn⟩ := Table.contains_iff.mp hn
  obtain ⟨f, hf⟩ := h.set n c hn
  exact Table.isEmpty_eq_false_iff.mpr
    ⟨_, (h.contains_write hfields).mpr ⟨n, c, f, hn, hf, rfl⟩⟩

end Grouping

end VcenterAccess
