import VcenterAccess.CloudConfig.Basic
import VcenterAccess.CloudConfig.Error
import VcenterAccess.Connection.Options
import VcenterAccess.Secret.Reference
import VcenterAccess.Session.Credentials

/-!
# Resolving a cloud configuration

Resolving applies what the entries inherit, reads the certificates they refer to
and checks them.  Entries are resolved in the order of their labels, and the
first fault is the result: `resolveEntry` finds the faults of one entry, in
order, and `resolveEntries` adds that no two entries name the same server.
-/

namespace VcenterAccess

open Text

/-- A vCenter with all that it inherits. -/
structure ResolvedVirtualCenter where
  /-- The label of its entry. -/
  label : String
  /-- How it is reached. -/
  options : ConnectionOptions
  /-- What it is logged in to with until a Secret says otherwise. -/
  credentials : SessionCredentials
  /-- The Secret with its credentials. -/
  secretReference : Option SecretReference
  datacenters : List String
deriving DecidableEq, Inhabited, Repr

namespace ResolvedVirtualCenter

/-- The vCenter as it is shown to a person, without secrets. -/
def inspect (v : ResolvedVirtualCenter) : String :=
  inspectRecord "ResolvedVirtualCenter"
    [("label", quote v.label), ("options", v.options.inspect),
      ("credentials", v.credentials.inspect),
      ("secret_ref", inspectOption SecretReference.inspect v.secretReference),
      ("datacenters", inspectList quote v.datacenters)]

end ResolvedVirtualCenter

namespace VirtualCenterSettings

/-- Settings with what they leave out taken from `global`. -/
def inherit (own global : VirtualCenterSettings) : VirtualCenterSettings where
  port := own.port.or global.port
  insecureFlag := own.insecureFlag.or global.insecureFlag
  caFile := own.caFile.or global.caFile
  thumbprint := own.thumbprint.or global.thumbprint
  secretName := own.secretName.or global.secretName
  secretNamespace := own.secretNamespace.or global.secretNamespace
  roundTripperCount := own.roundTripperCount.or global.roundTripperCount
  user := own.user.or global.user
  password := own.password.or global.password

/-- The Secret that settings refer to.  Name and namespace go together, and
neither may be empty. -/
def secretReference (label : String) (s : VirtualCenterSettings) :
    Except ConfigError (Option SecretReference) :=
  match s.secretName, s.secretNamespace with
  | none, none => .ok none
  | some name, some ns =>
      if name.isEmpty || ns.isEmpty then .error (.incompleteSecretReference label)
      else .ok (some ⟨ns, name⟩)
  | _, _ => .error (.incompleteSecretReference label)

/-- The trust anchor that settings ask for.  The flag wins, and no file is read
then; an empty thumbprint is none. -/
def trustAnchor (readFile : FileReader) (label : String) (s : VirtualCenterSettings) :
    Except ConfigError TrustAnchor :=
  if s.insecureFlag.getD false then .ok .insecure
  else
    match s.caFile, s.thumbprint.filter fun t => !t.isEmpty with
    | some _, some _ => .error (.conflictingTrustAnchors label)
    | some path, none =>
        match readFile path with
        | .ok pem => .ok (.caBundle pem)
        | .error cause => .error (.readCaFile path label cause)
    | none, some digest => .ok (.thumbprint digest)
    | none, none => .ok .systemRoots

end VirtualCenterSettings

/-- The server of an entry. -/
def VirtualCenterConfig.serverOr (c : VirtualCenterConfig) (label : String) : String :=
  if c.server.isEmpty then label else c.server

namespace CloudConfig

/-- Resolve one entry. -/
def resolveEntry (readFile : FileReader) (global : VirtualCenterSettings) (label : String)
    (entry : VirtualCenterConfig) : Except ConfigError ResolvedVirtualCenter := do
  let server := entry.serverOr label
  if server.isEmpty then throw (.emptyServer label)
  let settings := entry.toVirtualCenterSettings.inherit global
  let secretReference ← settings.secretReference label
  let trustAnchor ← settings.trustAnchor readFile label
  return {
    label
    options := {
      hostname := server
      port := settings.port.getD defaultPort
      trustAnchor
      retries := settings.roundTripperCount }
    credentials := { username := settings.user.getD "", password := settings.password.getD "" }
    secretReference
    datacenters := entry.datacenters }

/-- The label of the entry that named a server before. -/
def labelOf? (server : String) (earlier : List ResolvedVirtualCenter) : Option String :=
  (earlier.find? fun v => v.options.hostname = server).map ResolvedVirtualCenter.label

/-- Resolve entries one after the other, given those resolved before. -/
def resolveEntries (readFile : FileReader) (global : VirtualCenterSettings)
    (earlier : List ResolvedVirtualCenter) :
    List (String × VirtualCenterConfig) → Except ConfigError (List ResolvedVirtualCenter)
  | [] => .ok []
  | (label, entry) :: rest => do
      let v ← resolveEntry readFile global label entry
      match labelOf? v.options.hostname earlier with
      | some first => throw (.duplicateServer v.options.hostname first label)
      | none =>
          let later ← resolveEntries readFile global (v :: earlier) rest
          return v :: later

/-- The vCenters of a configuration, by label. -/
def resolve (readFile : FileReader) (config : CloudConfig) :
    Except ConfigError (List ResolvedVirtualCenter) :=
  if config.virtualCenters.isEmpty then .error .noVirtualCenter
  else resolveEntries readFile config.global [] config.virtualCenters.toList

end CloudConfig

end VcenterAccess
