import VcenterAccess.CloudConfig.Basic
import VcenterAccess.CloudConfig.Error
import VcenterAccess.Secret.Reference
import VcenterAccess.Yaml.Decode

/-!
# Reading a cloud configuration

The configuration is a YAML document.  Keys that are not known are passed over.
-/

namespace VcenterAccess

open Yaml Yaml.Decoder

/-- A port. -/
def portDecoder : Decoder UInt16 := fun d t => UInt16.ofNat <$> unsigned UInt16.size d t

/-- A number of retries. -/
def retriesDecoder : Decoder UInt32 := fun d t => UInt32.ofNat <$> unsigned UInt32.size d t

/-- The settings by their keys, for anything that has settings. -/
def settingsField? {α : Type} (change : (VirtualCenterSettings → VirtualCenterSettings) → α → α)
    (key : String) : Option (FieldReader α) :=
  if key = "port" then
    some (into (optional portDecoder) fun a v => change (fun s => { s with port := v }) a)
  else if key = "insecureFlag" then
    some (into (optional truth) fun a v => change (fun s => { s with insecureFlag := v }) a)
  else if key = "caFile" then
    some (into (optional text) fun a v => change (fun s => { s with caFile := v }) a)
  else if key = "thumbprint" then
    some (into (optional text) fun a v => change (fun s => { s with thumbprint := v }) a)
  else if key = "secretName" then
    some (into (optional text) fun a v => change (fun s => { s with secretName := v }) a)
  else if key = "secretNamespace" then
    some (into (optional text) fun a v => change (fun s => { s with secretNamespace := v }) a)
  else if key = "roundTripperCount" then
    some (into (optional retriesDecoder) fun a v =>
      change (fun s => { s with roundTripperCount := v }) a)
  else if key = "user" then
    some (into (optional text) fun a v => change (fun s => { s with user := v }) a)
  else if key = "password" then
    some (into (optional text) fun a v => change (fun s => { s with password := v }) a)
  else none

/-- The settings of all vCenters. -/
def settingsDecoder : Decoder VirtualCenterSettings := record {} (settingsField? id)

/-- The entry of a vCenter. -/
def virtualCenterDecoder : Decoder VirtualCenterConfig :=
  record {} fun key =>
    if key = "server" then some (into text fun c v => { c with server := v })
    else if key = "datacenters" then some (into (list text) fun c v => { c with datacenters := v })
    else
      settingsField? (fun f c => { c with toVirtualCenterSettings := f c.toVirtualCenterSettings })
        key

/-- The configuration. -/
def cloudConfigDecoder : Decoder CloudConfig :=
  record {} fun key =>
    if key = "global" then some (into settingsDecoder fun c v => { c with global := v })
    else if key = "vcenter" then
      some (into (table virtualCenterDecoder) fun c v => { c with virtualCenters := Table.ofList v })
    else none

/-- Read a configuration. -/
def CloudConfig.ofYaml (yaml : String) : Except ConfigError CloudConfig :=
  match cloudConfigDecoder.ofText? yaml with
  | some config => .ok config
  | none => .error .parse

/-- Read the configuration in a file. -/
def CloudConfig.ofFile (readFile : FileReader) (path : String) : Except ConfigError CloudConfig :=
  match readFile path with
  | .ok yaml => CloudConfig.ofYaml yaml
  | .error cause => .error (.readConfigFile path cause)

/-- A reference to a Secret needs its namespace and its name. -/
def secretReferenceDecoder : Decoder SecretReference := fun d t => do
  let fields ← record (none, none) (fun key =>
    if key = "namespace" then some (into text fun r v => (some v, r.2))
    else if key = "name" then some (into text fun r v => (r.1, some v))
    else none) d t
  match fields with
  | (some ns, some name) => pure ⟨ns, name⟩
  | _ => failure

/-- Read a reference to a Secret. -/
def SecretReference.ofYaml? (yaml : String) : Option SecretReference :=
  secretReferenceDecoder.ofText? yaml

end VcenterAccess
