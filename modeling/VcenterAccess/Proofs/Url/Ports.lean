import VcenterAccess.Proofs.DomainName.Colons
import VcenterAccess.Proofs.Text.Numerals
import VcenterAccess.Url.Parse

/-!
# No host ends in a port

What stands before the path of a URL is a host, and from the first colon outside brackets on a
port.  Digits behind the last colon are always the port (`Url.port_of_splitHost`): nothing that
ends in them is read as a host, and nothing with one more colon as a number.

In brackets a host ends in the second one (`Url.Host.parse_ne_ok`).  Without brackets the colon
survives all that is done to a host on its way to a domain name (`Url.Host.ofOpen_ne_ok`): it is
no digit, so nothing before it is decoded together with what stands behind it, and no domain
name has a colon.
-/

namespace VcenterAccess

open Text

/-! ## Hosts -/

namespace Url

/-- A byte is kept, or stands before two digits and is decoded with them. -/
theorem percentDecode_cases (a : UInt8) (bs : List UInt8) :
    percentDecode (a :: bs) = a :: percentDecode bs ∨
      a = 0x25 ∧ ∃ b c rest, bs = b :: c :: rest ∧ (hexValue? b).isSome ∧ (hexValue? c).isSome ∧
        ∃ d, percentDecode (a :: bs) = d :: percentDecode rest := by
  match bs with
  | [] => simp [percentDecode]
  | [b] => simp [percentDecode]
  | b :: c :: rest =>
      rw [percentDecode]
      split
      · next hi lo hdigits =>
        split at hdigits
        · next ha =>
          obtain ⟨hhi, hlo⟩ := Prod.mk.inj hdigits
          exact .inr ⟨ha, b, c, rest, rfl, Option.isSome_of_eq_some hhi,
            Option.isSome_of_eq_some hlo, _, rfl⟩
        · cases hdigits
      · exact .inl rfl

theorem percentDecode_eq_self {bs : List UInt8} (h : 0x25 ∉ bs) : percentDecode bs = bs := by
  induction bs with
  | nil => simp [percentDecode]
  | cons b bs ih =>
      rw [List.mem_cons, not_or] at h
      obtain ⟨hb, hbs⟩ := h
      rcases percentDecode_cases b bs with hkept | ⟨hpercent, -⟩
      · rw [hkept, ih hbs]
      · exact absurd hpercent.symm hb

/-- A colon is no digit, so what comes before it is decoded without what comes behind. -/
theorem suffix_percentDecode {t : List UInt8} (ht : 0x25 ∉ t) :
    ∀ bs : List UInt8, 0x3A :: t <:+ percentDecode (bs ++ 0x3A :: t)
  | [] => by
      have hnone : (0x25 : UInt8) ∉ 0x3A :: t := by
        rw [List.mem_cons, not_or]
        exact ⟨by decide, ht⟩
      exact ⟨[], (percentDecode_eq_self hnone).symm⟩
  | a :: bs => by
      rw [List.cons_append]
      rcases percentDecode_cases a (bs ++ 0x3A :: t) with
        hkept | ⟨-, b, c, rest, hbs, hb, hc, d, hdecoded⟩
      · rw [hkept]
        exact (suffix_percentDecode ht bs).trans (List.suffix_cons ..)
      · rw [hdecoded]
        match bs, hbs with
        | [], hbs =>
            obtain ⟨rfl, -⟩ := List.cons.inj hbs
            cases hb
        | [_], hbs =>
            obtain ⟨-, hbs⟩ := List.cons.inj hbs
            obtain ⟨rfl, -⟩ := List.cons.inj hbs
            cases hc
        | _ :: _ :: bs, hbs =>
            obtain ⟨-, hbs⟩ := List.cons.inj hbs
            obtain ⟨-, rfl⟩ := List.cons.inj hbs
            exact (suffix_percentDecode ht bs).trans (List.suffix_cons ..)
termination_by bs => bs.length

/-- A digit is a small character of ASCII, and no percent sign. -/
theorem isDigit_small {c : Char} (h : c.isDigit = true) :
    c.toNat < 0x80 ∧ c.toLower = c ∧ UInt8.ofNat c.toNat ≠ 0x25 := by
  rw [Char.isDigit, Bool.and_eq_true, decide_eq_true_iff, decide_eq_true_iff, ge_iff_le,
    UInt32.le_iff_toNat_le, UInt32.le_iff_toNat_le] at h
  obtain ⟨hlow, hhigh⟩ : 48 ≤ c.toNat ∧ c.toNat ≤ 57 := h
  refine ⟨by omega, dif_neg fun hupper => ?_, fun heq => ?_⟩
  · have hcapital : 65 ≤ c.toNat := UInt32.le_iff_toNat_le.mp hupper.1
    omega
  · have hbyte : (UInt8.ofNat c.toNat).toNat = 0x25 := congrArg UInt8.toNat heq
    rw [UInt8.toNat_ofNat', Nat.mod_eq_of_lt (by omega)] at hbyte
    omega

/-- No host without brackets ends in a port. -/
theorem Host.ofOpen_ne_ok {cs digits : List Char} (hdigits : ∀ c ∈ digits, c.isDigit = true)
    (host : Host) : Host.ofOpen (cs ++ ':' :: digits) ≠ .ok host := by
  have hsmall : ∀ c ∈ ':' :: digits, c.toNat < 0x80 ∧ c.toLower = c := by
    intro c hc
    rcases List.mem_cons.mp hc with rfl | hc
    · decide
    · exact ⟨(isDigit_small (hdigits c hc)).1, (isDigit_small (hdigits c hc)).2.1⟩
  have hencode : Utf8.encode (':' :: digits) = 0x3A :: Utf8.encode digits := rfl
  have hpercent : (0x25 : UInt8) ∉ Utf8.encode digits := by
    intro h
    obtain ⟨c, hc, hbyte⟩ := List.mem_flatMap.mp h
    obtain ⟨hlow, -, hne⟩ := isDigit_small (hdigits c hc)
    rw [Utf8.encodeChar_of_ascii hlow, List.mem_singleton] at hbyte
    exact hne hbyte.symm
  intro h
  unfold Host.ofOpen at h
  split at h
  · cases h
  · next ascii hascii =>
    obtain ⟨name, hname, htoAscii⟩ := Option.bind_eq_some_iff.mp hascii
    obtain ⟨front, hfront⟩ := suffix_percentDecode hpercent (Utf8.encode cs)
    rw [Utf8.encode_append, hencode, ← hfront, ← hencode] at hname
    obtain ⟨before, rfl⟩ := Utf8.suffix_of_decode? (fun c hc => (hsmall c hc).1) hname
    rw [DomainName.toAscii?_eq_none hsmall (List.mem_cons_self ..)] at htoAscii
    cases htoAscii

/-! ## Ports -/

theorem splitHost_append (bracketed : Bool) (cs : List Char) :
    (splitHost bracketed cs).1 ++ (splitHost bracketed cs).2 = cs := by
  induction cs generalizing bracketed with
  | nil => rfl
  | cons c cs ih =>
      rw [splitHost]
      split
      · rfl
      · exact congrArg (c :: ·) (ih _)

/-- What stands after a host is nothing, or starts with a colon. -/
theorem splitHost_snd (bracketed : Bool) (cs : List Char) :
    (splitHost bracketed cs).2 = [] ∨ ∃ digits, (splitHost bracketed cs).2 = ':' :: digits := by
  induction cs generalizing bracketed with
  | nil => exact .inl rfl
  | cons c cs ih =>
      rw [splitHost]
      split
      · next hcolon =>
        rw [Bool.and_eq_true, decide_eq_true_iff] at hcolon
        exact .inr ⟨cs, hcolon.1 ▸ rfl⟩
      · exact ih _

theorem portNumber?_of_digits {cs : List Char} (h : ∀ c ∈ cs, c.isDigit = true) (n : Nat) :
    portNumber? n cs = some (Nat.ofDigitChars 10 cs n) := by
  induction cs generalizing n with
  | nil => rfl
  | cons c cs ih =>
      rw [portNumber?, if_pos (h c (List.mem_cons_self ..)), Nat.mul_comm,
        ih fun d hd => h d (List.mem_cons_of_mem _ hd)]
      rfl

theorem isDigit_of_portNumber? {cs : List Char} {n m : Nat} (h : portNumber? n cs = some m) :
    ∀ c ∈ cs, c.isDigit = true := by
  induction cs generalizing n with
  | nil => exact fun c hc => nomatch hc
  | cons c cs ih =>
      rw [portNumber?] at h
      split at h
      · next hdigit => exact List.forall_mem_cons.mpr ⟨hdigit, ih h⟩
      · cases h

/-- A port in decimal. -/
def portDigits (port : UInt16) : List Char := (toString port.toNat).toList

theorem isDigit_of_mem_portDigits {port : UInt16} {c : Char} (h : c ∈ portDigits port) :
    c.isDigit = true :=
  isDigit_of_mem_toString h

theorem portDigits_ne_nil (port : UInt16) : portDigits port ≠ [] := toString_ne_nil _

theorem notMem_portDigits (port : UInt16) {c : Char} (hc : c.isDigit = false) :
    c ∉ portDigits port :=
  fun h => Bool.false_ne_true (hc ▸ isDigit_of_mem_portDigits h)

theorem portNumber?_portDigits (port : UInt16) :
    portNumber? 0 (portDigits port) = some port.toNat := by
  rw [portNumber?_of_digits fun c hc => isDigit_of_mem_portDigits hc, portDigits,
    ofDigitChars_toString]

/-- The port of a scheme is not kept. -/
theorem readPort_portDigits (scheme : WebScheme) (port : UInt16) :
    readPort scheme (':' :: portDigits port) =
      .ok (if port = scheme.defaultPort then none else some port) := by
  have hsmall : ¬ 0xFFFF < port.toNat := Nat.not_lt.mpr (Nat.le_of_lt_succ port.toNat_lt)
  unfold readPort
  split
  · next hnone => exact absurd hnone (portDigits_ne_nil port)
  · rw [List.drop_succ_cons, List.drop_zero, portNumber?_portDigits]
    simp only [if_neg hsmall, UInt16.ofNat_toNat]
    split <;> rfl

/-- The last character of a port is a digit. -/
theorem isDigit_of_portDigits_eq {port : UInt16} {cs front : List Char} {c : Char}
    (h : cs ++ ':' :: portDigits port = front ++ [c]) : c.isDigit = true := by
  obtain ⟨digits, d, hdigits⟩ :=
    (List.eq_nil_or_concat (portDigits port)).resolve_left (portDigits_ne_nil port)
  rw [List.concat_eq_append] at hdigits
  rw [hdigits, ← List.cons_append, ← List.append_assoc] at h
  obtain ⟨-, heq⟩ := List.append_inj' h rfl
  obtain rfl := List.singleton_inj.mp heq
  exact isDigit_of_mem_portDigits (hdigits ▸ List.mem_append_right _ (List.mem_singleton_self _))

/-- Nothing with digits after its last colon is a host. -/
theorem Host.parse_ne_ok (cs : List Char) (port : UInt16) (host : Host) :
    Host.parse (cs ++ ':' :: portDigits port) ≠ .ok host := by
  intro h
  unfold Host.parse at h
  split at h
  · cases h
  · next tail hopen =>
    unfold Host.ofBracketed at h
    split at h
    · next address haddress =>
      obtain ⟨inner, hinner, -⟩ := Option.bind_eq_some_iff.mp haddress
      rw [stripEnd?_eq_some_iff.mp hinner, ← List.cons_append] at hopen
      exact absurd (isDigit_of_portDigits_eq hopen) (by decide)
    · cases h
  · exact Host.ofOpen_ne_ok (fun c hc => isDigit_of_mem_portDigits hc) host h

/-- Where a host can be read, digits after the last colon are its port; a colon in what is read as
the port would be no digit. -/
theorem port_of_splitHost {scheme : WebScheme} {cs : List Char} {port : UInt16} {host : Host}
    {p : Option UInt16}
    (hhost : Host.parse (splitHost false (cs ++ ':' :: portDigits port)).1 = .ok host)
    (hport : readPort scheme (splitHost false (cs ++ ':' :: portDigits port)).2 = .ok p) :
    p = if port = scheme.defaultPort then none else some port := by
  have hsplit := splitHost_append false (cs ++ ':' :: portDigits port)
  rcases splitHost_snd false (cs ++ ':' :: portDigits port) with hnone | ⟨digits, hdigits⟩
  · rw [hnone, List.append_nil] at hsplit
    rw [hsplit] at hhost
    exact absurd hhost (Host.parse_ne_ok cs port host)
  · rw [hdigits] at hsplit hport
    have hcolon : ':' ∉ digits := by
      intro hmem
      unfold readPort at hport
      split at hport
      · next hnone =>
        cases hnone
        cases hmem
      · split at hport
        · cases hport
        · next hnumber => exact absurd (isDigit_of_portNumber? hnumber ':' hmem) (by decide)
    rw [eq_of_append_cons_eq hsplit hcolon (notMem_portDigits port (by decide)),
      readPort_portDigits] at hport
    exact (Except.ok.inj hport).symm

end Url

end VcenterAccess
