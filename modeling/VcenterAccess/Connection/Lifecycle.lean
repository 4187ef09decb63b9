import VcenterAccess.Connection.Login

/-!
# The life of a connection

A connection does not remember whether it is connected.  Whoever connects asks for
the session of the client first, and keeps the client if there is one.  Otherwise
the client is dropped before a new one is logged in, so a failed login leaves none.

Connecting and logging out exclude each other for all connections that share a
lock.  New credentials only wait for a login of their own connection.
-/

namespace VcenterAccess.Connection

open Program

/-- Log in and publish the client. -/
def renew (c : Connection) (load : Certificate.ChainLoader := Certificate.loadChain?) :
    Program (Except ConnectionError Unit) := do
  match ← c.newClient load with
  | .error e => return .error e
  | .ok client =>
      operate (.setClient c.number (some client))
      return .ok ()

/-- Keep the client if it has a session, and log in otherwise. -/
def ensureSession (c : Connection) (load : Certificate.ChainLoader := Certificate.loadChain?) :
    Program (Except ConnectionError Unit) := do
  match ← operate (.getClient c.number) with
  | none => c.renew load
  | some client =>
      match ← ask (.userSession client) with
      | .ok (some _) => return .ok ()
      | _ =>
          operate (.setClient c.number none)
          c.renew load

/-- Make sure that the connection has a client with a session. -/
def connect (c : Connection) (load : Certificate.ChainLoader := Certificate.loadChain?) :
    Program (Except ConnectionError Unit) :=
  locked (.connect c.connectLock) (c.ensureSession load)

/-- Drop the client, and end its session if the vCenter can. -/
def dropSession (c : Connection) : Program Unit := do
  match ← operate (.getClient c.number) with
  | none => return ()
  | some client =>
      operate (.setClient c.number none)
      let _ ← ask (.logout client)
      return ()

/-- End the session of the connection. -/
def logout (c : Connection) : Program Unit :=
  locked (.connect c.connectLock) c.dropSession

/-- Use other credentials from the next login on.  The current session stays. -/
def updateCredentials (c : Connection) (credentials : SessionCredentials) : Program Unit :=
  locked (.credentials c.number) do
    let s ← operate (.getLogin c.number)
    operate (.setLogin c.number (s.update credentials))

end VcenterAccess.Connection
