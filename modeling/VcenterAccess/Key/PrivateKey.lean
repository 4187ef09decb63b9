import VcenterAccess.Key.P256
import VcenterAccess.Key.Rsa
import VcenterAccess.Pem
import VcenterAccess.Text.Blank
import VcenterAccess.Text.Quoted

/-!
# Private keys

A private key in PEM form.  The label says what the body is: an RSA key in its
own form, a P-256 key in its own form, or either of them in a common container.
-/

namespace VcenterAccess

open Der Text

/-- A private key for a certificate. -/
inductive PrivateKey where
  | rsa (key : RsaKey)
  /-- A key on the curve P-256. -/
  | p256 (key : P256.Key)
deriving DecidableEq, Repr

/-- Why a text is no private key. -/
inductive PrivateKeyError where
  /-- The text is no PEM document. -/
  | notPem
  /-- The label is that of something else. -/
  | unsupported (label : String)
  /-- The container holds neither an RSA nor a P-256 key. -/
  | invalidContainer
  /-- There is no RSA key. -/
  | invalidRsa
  /-- There is no P-256 key. -/
  | invalidP256
deriving DecidableEq, Repr

namespace PrivateKey

/-- What a container holds: an algorithm and a key. -/
structure Container where
  /-- What kind of key it is. -/
  algorithm : Algorithm
  /-- The key, as it is encoded. -/
  key : List UInt8

/-- A container in the form of PKCS#8.  A public half stands in it exactly from
the second version on.  Further fields are passed over. -/
def containerReader : Reader Container :=
  inSequence do
    let version ← natural
    if 1 < version then failure
    let algorithm ← Der.algorithm
    let key ← octetString
    let point ← Der.optional 1 (do wholeBytes (← bitStringAs (implicitTag 1)))
    if (version = 1) ≠ point.isSome then failure
    let rest ← get
    match all? (do
      let e ← element
      if isContextTag e.tag && isConstructed e.tag && (whole? element e.content).isSome
      then pure ()
      else failure) rest with
    | none => failure
    | some _ => set ([] : List UInt8)
    return ⟨algorithm, key⟩

/-- The RSA key in a container. -/
def rsaOfContainer? (c : Container) : Option RsaKey :=
  if c.algorithm = ⟨rsaOid, some Der.null⟩ then whole? RsaKey.reader c.key else none

/-- The P-256 key in a container. -/
def p256OfContainer? (c : Container) : Option P256.Key :=
  if c.algorithm = ⟨ellipticOid, some p256Oid.encode⟩ then whole? P256.Key.reader c.key else none

/-- Read a key of any kind from its container. -/
def ofContainer? (bytes : List UInt8) : Option PrivateKey :=
  (whole? containerReader bytes).bind fun c =>
    ((rsaOfContainer? c).map rsa).or ((p256OfContainer? c).map p256)

/-- What a label says about the body. -/
inductive Form where
  | container
  /-- An RSA key. -/
  | rsa
  /-- A P-256 key. -/
  | p256
deriving DecidableEq, Repr

/-- The form of a label. -/
def form? (label : String) : Option Form :=
  if label = "PRIVATE KEY" then some .container
  else if label = "RSA PRIVATE KEY" then some .rsa
  else if label = "EC PRIVATE KEY" then some .p256
  else none

/-- Read the body of a key in some form. -/
def ofBody? (form : Form) (e : Pem.Envelope) : Except PrivateKeyError PrivateKey :=
  match form with
  | .container =>
      match e.decode?.bind ofContainer? with
      | some k => .ok k
      | none => .error .invalidContainer
  | .rsa =>
      match e.decode?.bind (whole? RsaKey.reader) with
      | some k => .ok (.rsa k)
      | none => .error .invalidRsa
  | .p256 =>
      match e.decode?.bind (whole? P256.Key.reader) with
      | some k => .ok (.p256 k)
      | none => .error .invalidP256

/-- Read a private key.  White space around it does not count. -/
def ofPem (s : String) : Except PrivateKeyError PrivateKey :=
  match Pem.parse? (Utf8.encode (trim s.toList)) with
  | none => .error .notPem
  | some e =>
      let label := Utf8.toText e.label
      match form? label with
      | none => .error (.unsupported label)
      | some form => ofBody? form e

/-- The public half as it stands in a certificate. -/
def publicKeyInfo : PrivateKey → List UInt8
  | rsa k => k.publicKeyInfo
  | p256 k => k.publicKeyInfo

/-- The kind of key, which is all that is shown of it. -/
def inspect : PrivateKey → String
  | rsa _ => "Rsa"
  | p256 _ => "EcdsaP256"

end PrivateKey

/-- Whether a text is a PEM document.  White space around it does not count. -/
def isPem (s : String) : Bool := (Pem.parse? (Utf8.encode (trim s.toList))).isSome

end VcenterAccess
