import VcenterAccess.Connection.Error
import VcenterAccess.Credential.Manager

/-!
# Failures to connect to a server
-/

namespace VcenterAccess

open Text

/-- Why a connection manager has no connection for a server. -/
inductive ManagerError where
  /-- It does not know the server. -/
  | unknownVirtualCenter (server : String)
  /-- The connection could not be established. -/
  | connect (server : String) (cause : ConnectionError)
  /-- The login was rejected, and no other credentials could be had. -/
  | refreshCredentials (server : String) (cause : LookupError)
deriving DecidableEq, Repr

/-- The message of an error. -/
def ManagerError.message : ManagerError → String
  | unknownVirtualCenter server => "vCenter " ++ quote server ++ " is not configured"
  | connect server _ => "failed to connect to vCenter " ++ quote server
  | refreshCredentials server _ => "failed to refresh credentials of vCenter " ++ quote server

end VcenterAccess
