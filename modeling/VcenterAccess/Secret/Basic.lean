import VcenterAccess.Secret.Payload
import VcenterAccess.Secret.Reference

/-!
# Secrets

A Secret of the cluster as the API server reports it: where it is, which object
and which revision of it this is, and its payload.
-/

namespace VcenterAccess

open Text

/-- A Secret of the cluster. -/
structure Secret where
  /-- The namespace, if the object carries one. -/
  ns : Option String := none
  name : String := ""
  /-- What tells an object from a later one of the same name. -/
  uid : Option String := none
  /-- The revision of the object. -/
  revision : Option String := none
  /-- The values.  A Secret without data has none. -/
  data : Option SecretPayload := none
deriving DecidableEq, Inhabited

namespace Secret

/-- The values, none if there is no data. -/
def payload (s : Secret) : SecretPayload := s.data.getD ∅

/-- Read the credentials out of a Secret. -/
def credentials (s : Secret) : Except ParseError CredentialTable := s.payload.parse

/-- Bytes as a list of numbers. -/
def inspectBytes (bytes : List UInt8) : String :=
  inspectCall "ByteString" [inspectList (fun b => toString b.toNat) bytes]

/-- The metadata of a Secret.  Of its many fields a Secret here sets four. -/
def inspectMetadata (s : Secret) : String :=
  inspectRecord "ObjectMeta"
    [("annotations", "None"), ("creation_timestamp", "None"),
      ("deletion_grace_period_seconds", "None"), ("deletion_timestamp", "None"),
      ("finalizers", "None"), ("generate_name", "None"), ("generation", "None"),
      ("labels", "None"), ("managed_fields", "None"),
      ("name", inspectOption quote (some s.name)), ("namespace", inspectOption quote s.ns),
      ("owner_references", "None"), ("resource_version", inspectOption quote s.revision),
      ("self_link", "None"), ("uid", inspectOption quote s.uid)]

/-- The Secret with its values, byte by byte. -/
def inspect (s : Secret) : String :=
  inspectRecord "Secret"
    [("data", inspectOption (fun d => inspectMap inspectBytes d.toList) s.data),
      ("immutable", "None"), ("metadata", s.inspectMetadata), ("string_data", "None"),
      ("type_", "None")]

end Secret

end VcenterAccess
