import VcenterAccess.Proofs.Der.Encoding
import VcenterAccess.Proofs.KeyPair.Loading

/-!
# Which keys belong to a certificate

What stands of a private key in a certificate is read back as a public key, whatever follows it
(`PrivateKey.publicKey_publicKeyInfo`).  It is the same for two keys exactly if they have the
same public half (`PrivateKey.publicKeyInfo_eq_iff`): of an RSA key the modulus and the public
exponent, of a key on the curve its point.

So a certificate that is loaded with one key is loaded with exactly the keys of the same public
half (`KeyPair.ofPem_eq_of_loaded`).
-/

namespace VcenterAccess

open Der

/-! ## Certificates -/

namespace Certificate

/-- A certificate is read back from what it is encoded as, so it is known by that. -/
theorem reader_encoded {bs rest : List UInt8} {certificate : Certificate}
    (h : reader bs = some (certificate, rest)) :
    bs = certificate.encoded ++ rest ∧
      ∀ s, reader (certificate.encoded ++ s) = some (certificate, s) := by
  obtain ⟨⟨body, encoded⟩, behind, hread, hresult⟩ := exists_of_bind h
  cases hresult
  obtain ⟨content, htag, hlength, hcontent, hform, hbytes⟩ := encodedAs_eq_some_iff.mp hread
  refine ⟨hbytes, fun s => ?_⟩
  rw [reader, bind_of_eq (encodedAs_eq_some_iff.mpr
    ⟨content, htag, hlength, hcontent, hform, rfl⟩)]
  rfl

end Certificate

/-! ## Public keys -/

namespace Certificate

variable {o o' : Oid} {tag : UInt8} {c key key' : List UInt8}

/-- A public key is short enough to be encoded. -/
def Encodable (o : Oid) (parameters key : List UInt8) : Prop :=
  (o.encode ++ parameters).length ≤ 0x100 ∧ key.length ≤ 0x10000

theorem Encodable.lengths {parameters : List UInt8} (h : Encodable o parameters key) :
    (o.encode ++ parameters).length ≤ maxLength ∧ (0 :: key).length ≤ maxLength ∧
      (encode 0x30 (o.encode ++ parameters) ++ encode 0x03 (0 :: key)).length ≤ maxLength := by
  obtain ⟨halgorithm, hkey⟩ := h
  have hlong : 0x20000 ≤ maxLength := by unfold maxLength; omega
  have hbits : (0 :: key).length ≤ 0x10001 := by
    rw [List.length_cons]
    omega
  have hsequence := length_encode_le (by omega : (o.encode ++ parameters).length ≤ maxLength) 0x30
  have hstring := length_encode_le (by omega : (0 :: key).length ≤ maxLength) 0x03
  refine ⟨by omega, by omega, ?_⟩
  rw [List.length_append]
  omega

theorem publicKey_encodePublicKey {parameters : List UInt8}
    (ho : Oid.ofContent? o.toContent = some o) (htag : isTag tag = true)
    (hparameters : parameters = encode tag c) (h : Encodable o parameters key)
    (rest : List UInt8) : publicKey (encodePublicKey o parameters key ++ rest) =
      some (encodePublicKey o parameters key, rest) := by
  subst hparameters
  obtain ⟨halgorithm, hbits, hwhole⟩ := h.lengths
  have hcontent : whole? (do let _ ← algorithm; let _ ← bitString)
      (encode 0x30 (o.encode ++ encode tag c) ++ encode 0x03 (0 :: key)) = some () := by
    refine whole?_of_eq ?_
    rw [bind_of_eq (algorithm_encode ho htag halgorithm _)]
    have hread := bitString_encode hbits []
    rw [List.append_nil] at hread
    rw [bind_of_eq hread]
    rfl
  have hread : encodedAs 0x30 (do let _ ← algorithm; let _ ← bitString)
      (encodePublicKey o (encode tag c) key ++ rest) =
        some (((), encodePublicKey o (encode tag c) key), rest) :=
    encodedAs_eq_some_iff.mpr ⟨_, by decide, hwhole, hcontent, rfl, rfl⟩
  rw [publicKey, bind_of_eq hread]
  rfl

theorem encodePublicKey_inj {parameters parameters' : List UInt8}
    (h : Encodable o parameters key) (h' : Encodable o' parameters' key')
    (heq : encodePublicKey o parameters key = encodePublicKey o' parameters' key') :
    o.encode ++ parameters = o'.encode ++ parameters' ∧ key = key' := by
  obtain ⟨halgorithm, hbits, hwhole⟩ := h.lengths
  obtain ⟨halgorithm', hbits', hwhole'⟩ := h'.lengths
  obtain ⟨hfirst, hsecond⟩ := encode_append_inj (by decide) halgorithm halgorithm'
    (encode_inj (by decide) hwhole hwhole' heq)
  exact ⟨hfirst, List.tail_eq_of_cons_eq (encode_inj (by decide) hbits hbits' hsecond)⟩

end Certificate

/-! ## RSA keys -/

namespace RsaKey

/-- A number is the content of its encoding, which a byte may come in front of. -/
theorem exists_encodeNatural {m n : Nat} (hm : 0 < m) (hn : n < 256 ^ m) :
    ∃ bytes, encodeNatural n = Der.encode 0x02 bytes ∧ Der.toNat bytes = n ∧
      bytes.length ≤ m + 1 := by
  unfold encodeNatural
  have hbytes : ∃ bytes, (if n = 0 then [0] else Der.ofNat n) = bytes ∧
      Der.toNat bytes = n ∧ bytes.length ≤ m := by
    split
    · next hzero => exact ⟨_, rfl, hzero ▸ rfl, hm⟩
    · exact ⟨_, rfl, toNat_ofNat n, length_ofNat_le hn⟩
  obtain ⟨bytes, hbytes, hvalue, hlength⟩ := hbytes
  simp only [hbytes]
  split
  · refine ⟨_, rfl, ?_, Nat.succ_le_succ hlength⟩
    rw [toNat_cons_zero, hvalue]
  · exact ⟨_, rfl, hvalue, Nat.le_succ_of_le hlength⟩

theorem encodeNatural_append_inj {m n n' : Nat} (hm : 0 < m) (hm' : m ≤ 0x1000) (hn : n < 256 ^ m)
    (hn' : n' < 256 ^ m) {r s : List UInt8} (h : encodeNatural n ++ r = encodeNatural n' ++ s) :
    n = n' ∧ r = s := by
  have hlong : 0x2000 ≤ maxLength := by unfold maxLength; omega
  obtain ⟨bytes, hbytes, rfl, hlength⟩ := exists_encodeNatural hm hn
  obtain ⟨bytes', hbytes', rfl, hlength'⟩ := exists_encodeNatural hm hn'
  rw [hbytes, hbytes'] at h
  obtain ⟨rfl, hrest⟩ := encode_append_inj (by decide) (by omega) (by omega) h
  exact ⟨rfl, hrest⟩

variable {k l : RsaKey}

/-- The most bytes of a modulus. -/
def maxBytes : Nat := 512

theorem lt_of_fits (h : k.fits = true) :
    k.modulus < 256 ^ maxBytes ∧ k.exponent < 256 ^ maxBytes := by
  simp only [fits, publicFits, Bool.and_eq_true, decide_eq_true_eq] at h
  obtain ⟨⟨⟨⟨⟨⟨⟨⟨hbits, hbelow⟩, -⟩, -⟩, -⟩, -⟩, -⟩, -⟩, -⟩ := h
  have hmodulus : k.modulus < 256 ^ maxBytes := by
    have hpos : k.modulus ≠ 0 := Nat.ne_of_gt (Nat.zero_lt_of_lt hbelow)
    have hpower : 2 ^ maxBits = 256 ^ maxBytes := by
      rw [show maxBits = 8 * maxBytes from rfl, Nat.pow_mul]
    rw [← hpower]
    exact (Nat.log2_lt hpos).mp hbits
  exact ⟨hmodulus, Nat.lt_trans hbelow hmodulus⟩

/-- The public half, without its algorithm. -/
def numbers (k : RsaKey) : List UInt8 := encodeNatural k.modulus ++ encodeNatural k.exponent

theorem length_numbers_le (h : k.fits = true) : k.numbers.length ≤ 0x1000 := by
  have hlong : 0x1000 ≤ maxLength := by unfold maxLength; omega
  have hnumber : ∀ {n}, n < 256 ^ maxBytes → (encodeNatural n).length ≤ 0x210 := by
    intro n hn
    obtain ⟨bytes, hbytes, -, hlength⟩ := exists_encodeNatural (by decide) hn
    rw [hbytes]
    have hshort : bytes.length ≤ 0x201 := hlength
    exact Nat.le_trans (length_encode_le (by omega) _) (by omega)
  obtain ⟨hmodulus, hexponent⟩ := lt_of_fits h
  rw [numbers, List.length_append]
  exact Nat.le_trans (Nat.add_le_add (hnumber hmodulus) (hnumber hexponent)) (by decide)

theorem numbers_inj (hk : k.fits = true) (hl : l.fits = true) (h : k.numbers = l.numbers) :
    k.modulus = l.modulus ∧ k.exponent = l.exponent := by
  obtain ⟨hmodulus, hexponent⟩ := lt_of_fits hk
  obtain ⟨hmodulus', hexponent'⟩ := lt_of_fits hl
  obtain ⟨hsame, hrest⟩ :=
    encodeNatural_append_inj (by decide) (by decide) hmodulus hmodulus' h
  have happend : encodeNatural k.exponent ++ [] = encodeNatural l.exponent ++ [] := by rw [hrest]
  exact ⟨hsame,
    (encodeNatural_append_inj (by decide) (by decide) hexponent hexponent' happend).1⟩

theorem encodable (h : k.fits = true) :
    Certificate.Encodable rsaOid Der.null (Der.encode 0x30 k.numbers) := by
  have hlong : 0x1000 ≤ maxLength := by unfold maxLength; omega
  have hnumbers := length_numbers_le h
  refine ⟨by decide +kernel, ?_⟩
  exact Nat.le_trans (length_encode_le (by omega) _) (by omega)

/-- Two keys have one public half in a certificate exactly if modulus and public exponent are the
same. -/
theorem publicKeyInfo_eq_iff (hk : k.fits = true) (hl : l.fits = true) :
    k.publicKeyInfo = l.publicKeyInfo ↔ k.modulus = l.modulus ∧ k.exponent = l.exponent := by
  constructor
  · intro heq
    obtain ⟨-, hnumbers⟩ := Certificate.encodePublicKey_inj (encodable hk) (encodable hl) heq
    have hlong : 0x1000 ≤ maxLength := by unfold maxLength; omega
    have hshort := length_numbers_le hk
    have hshort' := length_numbers_le hl
    exact numbers_inj hk hl (encode_inj (by decide) (by omega) (by omega) hnumbers)
  · rintro ⟨hmodulus, hexponent⟩
    rw [publicKeyInfo, hmodulus, hexponent, ← publicKeyInfo]

theorem fits_of_reader {bs : List UInt8} (h : whole? reader bs = some k) : k.fits = true := by
  obtain ⟨l, rest, -, hcheck⟩ := exists_of_bind (eq_of_whole? h)
  split at hcheck
  · next hfits =>
    cases hcheck
    exact hfits
  · cases hcheck

end RsaKey

/-! ## Keys on the curve -/

namespace P256

/-- The coordinates of a point are elements of the field. -/
def Point.Reduced : Point → Prop
  | .infinity => True
  | .affine x y => x < fieldPrime ∧ y < fieldPrime

theorem subtract_lt (a b : Nat) : subtract a b < fieldPrime := Nat.mod_lt _ (by decide)

theorem reduced_chord (s x₁ y₁ x₂ : Nat) : (chord s x₁ y₁ x₂).Reduced :=
  ⟨subtract_lt .., subtract_lt ..⟩

theorem reduced_double (p : Point) : (double p).Reduced := by
  cases p with
  | infinity => trivial
  | affine x y =>
      rw [double]
      split
      · trivial
      · exact reduced_chord ..

theorem reduced_add {p q : Point} (hp : p.Reduced) (hq : q.Reduced) : (add p q).Reduced := by
  cases p with
  | infinity => exact hq
  | affine x₁ y₁ =>
      cases q with
      | infinity => exact hp
      | affine x₂ y₂ =>
          rw [add]
          split
          · split
            · exact reduced_double _
            · trivial
          · exact reduced_chord ..

theorem reduced_multiply (k : Nat) (p : Point) (hp : p.Reduced) : (multiply k p).Reduced := by
  induction k, p using multiply.induct with
  | case1 p =>
      rw [multiply, if_pos rfl]
      trivial
  | case2 k p hk hodd ih =>
      rw [multiply, if_neg hk]
      simp only [hodd, if_true]
      exact reduced_add hp (ih (reduced_double p))
  | case3 k p hk heven ih =>
      rw [multiply, if_neg hk]
      simp only [heven, if_false]
      exact ih (reduced_double p)

theorem reduced_publicPoint (k : Key) : k.publicPoint.Reduced :=
  reduced_multiply _ _ ⟨by decide, by decide⟩

theorem toNat_replicate (n : Nat) (bs : List UInt8) :
    Der.toNat (List.replicate n 0 ++ bs) = Der.toNat bs := by
  induction n with
  | zero => rfl
  | succ n ih => rw [List.replicate_succ, List.cons_append, toNat_cons_zero, ih]

theorem toNat_toBytes (n : Nat) : Der.toNat (toBytes n) = n := by
  rw [toBytes, toNat_replicate, toNat_ofNat]

theorem length_toBytes {n : Nat} (hn : n < fieldPrime) : (toBytes n).length = 32 := by
  have hlength : (Der.ofNat n).length ≤ 32 := length_ofNat_le (Nat.lt_trans hn (by decide))
  rw [toBytes, List.length_append, List.length_replicate]
  omega

theorem encodePoint_inj {p q : Point} (hp : p.Reduced) (hq : q.Reduced)
    (h : encodePoint p = encodePoint q) : p = q := by
  cases p with
  | infinity =>
      cases q with
      | infinity => rfl
      | affine => cases h
  | affine x y =>
      cases q with
      | infinity => cases h
      | affine x' y' =>
          obtain ⟨hx, hy⟩ := List.append_inj (List.tail_eq_of_cons_eq h)
            ((length_toBytes hp.1).trans (length_toBytes hq.1).symm)
          rw [← toNat_toBytes x, hx, toNat_toBytes, ← toNat_toBytes y, hy, toNat_toBytes]

theorem Key.encodable (k : Key) :
    Certificate.Encodable ellipticOid p256Oid.encode (encodePoint k.publicPoint) := by
  refine ⟨by decide +kernel, ?_⟩
  have hreduced := reduced_publicPoint k
  cases hpoint : k.publicPoint with
  | infinity => decide
  | affine x y =>
      rw [hpoint] at hreduced
      rw [encodePoint, List.length_cons, List.length_append, length_toBytes hreduced.1,
        length_toBytes hreduced.2]
      decide

/-- Two keys have one public half in a certificate exactly if their points are the same. -/
theorem Key.publicKeyInfo_eq_iff {k l : Key} :
    k.publicKeyInfo = l.publicKeyInfo ↔ k.publicPoint = l.publicPoint := by
  constructor
  · intro heq
    obtain ⟨-, hpoint⟩ := Certificate.encodePublicKey_inj k.encodable l.encodable heq
    exact encodePoint_inj (reduced_publicPoint k) (reduced_publicPoint l) hpoint
  · intro heq
    rw [publicKeyInfo, heq, ← publicKeyInfo]

end P256

/-- The algorithms tell keys of both kinds apart. -/
theorem RsaKey.publicKeyInfo_ne {k : RsaKey} (h : k.fits = true) (l : P256.Key) :
    k.publicKeyInfo ≠ l.publicKeyInfo := by
  intro heq
  have hdiffer : ¬ rsaOid.encode ++ Der.null = ellipticOid.encode ++ p256Oid.encode := by
    decide +kernel
  exact hdiffer (Certificate.encodePublicKey_inj (encodable h) l.encodable heq).1

/-! ## Private keys -/

/-- What a certificate says of a private key. -/
inductive PublicHalf where
  | rsa (modulus exponent : Nat)
  /-- A point of the curve P-256. -/
  | p256 (point : P256.Point)
deriving DecidableEq

namespace PrivateKey

/-- The public half of a key. -/
def publicHalf : PrivateKey → PublicHalf
  | rsa k => .rsa k.modulus k.exponent
  | p256 k => .p256 k.publicPoint

/-- The numbers of a key fit together, as those of every key that is read. -/
def Fits : PrivateKey → Prop
  | rsa k => k.fits = true
  | p256 _ => True

theorem fits_of_ofPem {s : String} {key : PrivateKey} (h : ofPem s = .ok key) : key.Fits := by
  have hverdict := verdict_ofPem s
  rw [h] at hverdict
  cases hverdict with
  | decoded _ _ hholds =>
  obtain ⟨der, -, hdecodes⟩ := hholds
  cases hdecodes with
  | rsaContainer _ hrsa =>
      unfold rsaOfContainer? at hrsa
      split at hrsa
      · exact RsaKey.fits_of_reader hrsa
      · cases hrsa
  | p256Container => trivial
  | rsa hrsa => exact RsaKey.fits_of_reader hrsa
  | p256 => trivial

variable {key other : PrivateKey}

/-- What stands of a key in a certificate is read back as a public key. -/
theorem publicKey_publicKeyInfo (h : key.Fits) (rest : List UInt8) :
    Certificate.publicKey (key.publicKeyInfo ++ rest) = some (key.publicKeyInfo, rest) := by
  cases key with
  | rsa k =>
      have hnull : Der.null = encode 0x05 [] := by decide +kernel
      exact Certificate.publicKey_encodePublicKey (by decide +kernel) (by decide) hnull
        (RsaKey.encodable h) rest
  | p256 k =>
      exact Certificate.publicKey_encodePublicKey (by decide +kernel) (by decide)
        rfl k.encodable rest

/-- The same stands in a certificate of two keys exactly if they have the same public half. -/
theorem publicKeyInfo_eq_iff (h : key.Fits) (hother : other.Fits) :
    key.publicKeyInfo = other.publicKeyInfo ↔ key.publicHalf = other.publicHalf := by
  cases key with
  | rsa k =>
      cases other with
      | rsa l =>
          exact (RsaKey.publicKeyInfo_eq_iff h hother).trans (iff_of_eq (PublicHalf.rsa.injEq ..)).symm
      | p256 l => exact iff_of_false (RsaKey.publicKeyInfo_ne h l) nofun
  | p256 k =>
      cases other with
      | rsa l => exact iff_of_false (RsaKey.publicKeyInfo_ne hother k).symm nofun
      | p256 l =>
          exact P256.Key.publicKeyInfo_eq_iff.trans (iff_of_eq (PublicHalf.p256.injEq ..)).symm

end PrivateKey

/-! ## Key pairs -/

namespace KeyPair

/-- Certificates that are loaded with one key are loaded with exactly the keys of the same
public half. -/
theorem ofPem_eq_of_loaded {certificates privateKey other : String} {pair : KeyPair}
    {key : PrivateKey} (h : ofPem certificates privateKey = .ok pair)
    (hkey : PrivateKey.ofPem other = .ok key) :
    ofPem certificates other =
      if key.publicHalf = pair.privateKey.publicHalf then .ok ⟨pair.certificate, key⟩
      else .error .mismatch := by
  have hverdict := verdict_ofPem certificates privateKey
  rw [h] at hverdict
  cases hverdict with
  | @loaded first later loadedKey hchain hloaded hpublic =>
  have hfits := PrivateKey.fits_of_ofPem hloaded.ofPem_eq
  have hiff := PrivateKey.publicKeyInfo_eq_iff (PrivateKey.fits_of_ofPem hkey) hfits
  have hother : PrivateKey.Verdict other (.ok key) := hkey ▸ PrivateKey.verdict_ofPem other
  split
  · next hsame =>
    exact (Verdict.loaded hchain hother (hpublic.trans (hiff.mpr hsame).symm)).ofPem_eq
  · next hdiffer =>
    refine (Verdict.mismatch hchain hother fun heq => hdiffer ?_).ofPem_eq
    exact hiff.mp (heq.symm.trans hpublic)

end KeyPair

end VcenterAccess
