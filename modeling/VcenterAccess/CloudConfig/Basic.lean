import VcenterAccess.Table
import VcenterAccess.Text.Inspection

/-!
# The cloud configuration

The configuration lists vCenters by label, with settings of their own, and
settings for all of them.  What a vCenter leaves out it inherits.
-/

namespace VcenterAccess

open Text

/-- Settings for one vCenter or for all of them. -/
structure VirtualCenterSettings where
  /-- The port of the vCenter. -/
  port : Option UInt16 := none
  /-- Whether its certificate is not verified. -/
  insecureFlag : Option Bool := none
  /-- The file with the certificates it is verified against. -/
  caFile : Option String := none
  /-- The thumbprint of its certificate. -/
  thumbprint : Option String := none
  /-- The name of the Secret with its credentials. -/
  secretName : Option String := none
  secretNamespace : Option String := none
  /-- How often a request is sent again. -/
  roundTripperCount : Option UInt32 := none
  /-- The user name. -/
  user : Option String := none
  /-- The password.  Never shown. -/
  password : Option String := none
deriving DecidableEq, Inhabited, Repr

/-- The entry of a vCenter. -/
structure VirtualCenterConfig extends VirtualCenterSettings where
  /-- Its name or address, the label of the entry if it is empty. -/
  server : String := ""
  datacenters : List String := []
deriving DecidableEq, Inhabited, Repr

/-- The cloud configuration. -/
structure CloudConfig where
  /-- The settings of all vCenters. -/
  global : VirtualCenterSettings := {}
  /-- The vCenters, by label. -/
  virtualCenters : Table VirtualCenterConfig := ∅
deriving DecidableEq, Inhabited

/-! ## Inspection -/

/-- The settings that may be shown. -/
def VirtualCenterSettings.inspectFields (s : VirtualCenterSettings) : List (String × String) :=
  [("port", inspectOption (fun p => toString p.toNat) s.port),
    ("insecure_flag", inspectOption inspectBool s.insecureFlag),
    ("ca_file", inspectOption quote s.caFile), ("thumbprint", inspectOption quote s.thumbprint),
    ("secret_name", inspectOption quote s.secretName),
    ("secret_namespace", inspectOption quote s.secretNamespace),
    ("round_tripper_count", inspectOption (fun n => toString n.toNat) s.roundTripperCount),
    ("user", inspectOption quote s.user)]

/-- The settings of all vCenters, without the password. -/
def VirtualCenterSettings.inspect (s : VirtualCenterSettings) : String :=
  inspectRecord "GlobalConfig" s.inspectFields

/-- The entry of a vCenter, without the password. -/
def VirtualCenterConfig.inspect (c : VirtualCenterConfig) : String :=
  inspectRecord "VirtualCenterConfig"
    ([("server", quote c.server)] ++ c.toVirtualCenterSettings.inspectFields
      ++ [("datacenters", inspectList quote c.datacenters)])

/-- The configuration, without passwords. -/
def CloudConfig.inspect (c : CloudConfig) : String :=
  inspectRecord "CloudConfig"
    [("global", c.global.inspect),
      ("vcenter", inspectMap VirtualCenterConfig.inspect c.virtualCenters.toList)]

end VcenterAccess
