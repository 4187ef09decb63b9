import VcenterAccess.CloudConfig.Resolution
import VcenterAccess.Connection.Lifecycle
import VcenterAccess.ConnectionManager.Error
import VcenterAccess.ConnectionManager.Source
import VcenterAccess.Memory

/-!
# The connection manager

A connection manager has one connection per server.  All of them share one lock, so
at most one of them connects or logs out at a time.

A vCenter that rejects a login gets the credentials of its Secret, if it has a
source of them, and one more chance.
-/

namespace VcenterAccess

open Program

/-- A vCenter that is managed. -/
structure VirtualCenter where
  connection : Connection
  /-- Where its credentials are looked up once they are rejected. -/
  source : Option SecretSource := none
deriving DecidableEq, Repr

namespace VirtualCenter

/-- Connect with the credentials of the Secret. -/
def connectRefreshed (v : VirtualCenter) (server : String) (source : SecretSource) :
    Program (Except ManagerError Unit) := do
  match ← source.getCredential server with
  | .error cause => return .error (.refreshCredentials server cause)
  | .ok credential =>
      v.connection.updateCredentials (.ofCredential credential)
      match ← v.connection.connect with
      | .error cause => return .error (.connect server cause)
      | .ok _ => return .ok ()

/-- Connect, and once more with the credentials of the Secret if the login is
rejected. -/
def connect (v : VirtualCenter) (server : String) : Program (Except ManagerError Unit) := do
  match ← v.connection.connect with
  | .ok _ => return .ok ()
  | .error cause =>
      match v.source.filter fun _ => cause.isInvalidLogin with
      | none => return .error (.connect server cause)
      | some source => v.connectRefreshed server source

end VirtualCenter

/-- Keeps the connections to all servers. -/
structure ConnectionManager where
  /-- The lock that its connections share. -/
  connectLock : Nat := 0
  /-- The number of connections it ever had. -/
  opened : Nat := 0
  /-- The vCenters, by server. -/
  virtualCenters : Table VirtualCenter := ∅

namespace ConnectionManager

/-- The servers in order. -/
def servers (m : ConnectionManager) : List String := m.virtualCenters.keys

/-- The connections in the order of their servers. -/
def connections (m : ConnectionManager) : List Connection :=
  m.virtualCenters.toList.map fun entry => entry.2.connection

/-- The connection to a server. -/
def connection? (m : ConnectionManager) (server : String) : Option Connection :=
  (m.virtualCenters.get? server).map VirtualCenter.connection

/-- The next connection. -/
def nextConnection (m : ConnectionManager) (options : ConnectionOptions) : Connection where
  number := m.opened
  options
  connectLock := m.connectLock

/-- Add a vCenter.  It takes the place of one with the same server, whose session
stays. -/
def insert (m : ConnectionManager) (options : ConnectionOptions) (source : Option SecretSource) :
    ConnectionManager where
  connectLock := m.connectLock
  opened := m.opened + 1
  virtualCenters := m.virtualCenters.insert options.hostname ⟨m.nextConnection options, source⟩

/-- Connect to a server. -/
def connect (m : ConnectionManager) (server : String) : Program (Except ManagerError Connection) :=
  match m.virtualCenters.get? server with
  | none => return .error (.unknownVirtualCenter server)
  | some v => do
      match ← v.connect server with
      | .error e => return .error e
      | .ok _ => return .ok v.connection

/-- Log connections out one after the other. -/
def logoutEach : List Connection → Program Unit
  | [] => return ()
  | c :: rest => do
      c.logout
      logoutEach rest

/-- Log out of every vCenter. -/
def logoutAll (m : ConnectionManager) : Program Unit := logoutEach m.connections

end ConnectionManager

end VcenterAccess
