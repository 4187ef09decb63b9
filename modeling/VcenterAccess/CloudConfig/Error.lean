import VcenterAccess.FileTree
import VcenterAccess.Text.Inspection

/-!
# Faults of a cloud configuration
-/

namespace VcenterAccess

open Text

/-- Why a configuration cannot be used. -/
inductive ConfigError where
  /-- Its file cannot be read. -/
  | readConfigFile (path : String) (cause : FileError)
  /-- It is no YAML, or YAML of another shape. -/
  | parse
  /-- It lists no vCenter. -/
  | noVirtualCenter
  /-- An entry names no server. -/
  | emptyServer (label : String)
  /-- A Secret is referenced without a name or without a namespace. -/
  | incompleteSecretReference (label : String)
  /-- Two entries name the same server. -/
  | duplicateServer (server first second : String)
  /-- An entry has two trust anchors. -/
  | conflictingTrustAnchors (label : String)
  /-- The certificates of an entry cannot be read. -/
  | readCaFile (path label : String) (cause : FileError)
deriving DecidableEq, Repr

/-- The message of an error. -/
def ConfigError.message : ConfigError → String
  | readConfigFile path _ => "failed to read cloud config from " ++ quote path
  | parse => "failed to parse cloud config"
  | noVirtualCenter => "no vCenter is configured"
  | emptyServer label => "vCenter " ++ quote label ++ " has no server"
  | incompleteSecretReference label =>
      "vCenter " ++ quote label
        ++ " needs both secretName and secretNamespace to reference a secret"
  | duplicateServer server first second =>
      "vCenters " ++ quote first ++ " and " ++ quote second ++ " both point at server "
        ++ quote server
  | conflictingTrustAnchors label =>
      "vCenter " ++ quote label ++ " configures both caFile and thumbprint"
  | readCaFile path label _ =>
      "failed to read CA file " ++ quote path ++ " of vCenter " ++ quote label

end VcenterAccess
