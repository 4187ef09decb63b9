import VcenterAccess.Certificate.Basic
import VcenterAccess.Key.PrivateKey

/-!
# Key pairs

A certificate and the private key that belongs to it.  Of a chain of
certificates the first one counts, but all have to load.
-/

namespace VcenterAccess

open Text

/-- Why two texts are no key pair. -/
inductive KeyPairError where
  /-- The certificates cannot be read. -/
  | unreadableChain
  /-- There is no certificate. -/
  | noCertificate
  /-- The private key cannot be read. -/
  | privateKey (cause : PrivateKeyError)
  /-- The private key is that of another certificate. -/
  | mismatch
deriving DecidableEq, Repr

/-- The message of an error. -/
def PrivateKeyError.message : PrivateKeyError → String
  | notPem => "failed to decode PEM-encoded private key"
  | unsupported label => "unsupported private key type " ++ quote label
  | invalidContainer => "failed to deserialize PKCS8 private key"
  | invalidRsa => "failed to deserialize PKCS1 RSA private key"
  | invalidP256 => "failed to deserialize SEC1 EC private key"

/-- The message of an error. -/
def KeyPairError.message : KeyPairError → String
  | unreadableChain => "failed to read PEM-encoded certificate chain"
  | noCertificate => "the certificate chain does not contain any certificate"
  | privateKey cause => cause.message
  | mismatch => "the private key does not match the public key of the certificate"

/-- A certificate with its private key. -/
structure KeyPair where
  certificate : Certificate
  privateKey : PrivateKey
deriving DecidableEq, Repr

namespace KeyPair

/-- Load a key pair from two texts in PEM form.  White space around them does not
count. -/
def ofPem (certificates privateKey : String)
    (load : Certificate.ChainLoader := Certificate.loadChain?) : Except KeyPairError KeyPair :=
  match load (Utf8.encode (trim certificates.toList)) with
  | none => .error .unreadableChain
  | some [] => .error .noCertificate
  | some (certificate :: _) =>
      match PrivateKey.ofPem privateKey with
      | .error cause => .error (.privateKey cause)
      | .ok key =>
          if certificate.publicKeyInfo = key.publicKeyInfo then .ok ⟨certificate, key⟩
          else .error .mismatch

/-- Whose certificate it is, as a text. -/
def subject (k : KeyPair) : String := k.certificate.subject.text

end KeyPair

end VcenterAccess
