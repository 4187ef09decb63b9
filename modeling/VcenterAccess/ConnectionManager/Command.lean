import VcenterAccess.Connection.Command
import VcenterAccess.ConnectionManager.Basic

/-!
# Commands to a connection manager

What can be asked of a connection manager, and what is replied.
-/

namespace VcenterAccess.ConnectionManager

open Program

/-- What can be asked of a connection manager. -/
inductive Command where
  | connect (server : String)
  /-- Log out of every vCenter. -/
  | logoutAll
  /-- Tell the servers. -/
  | servers
  /-- Ask the connection to a server. -/
  | connection (server : String) (command : Connection.Command)
deriving DecidableEq, Repr

/-- What a connection manager replies. -/
inductive Reply where
  /-- The client of the connection to a server. -/
  | connected (outcome : Except ManagerError (Option Client))
  | done
  /-- The servers in order. -/
  | servers (servers : List String)
  /-- The reply of a connection, if the server has one. -/
  | connection (reply : Option Connection.Reply)

/-- Carry out a command. -/
def execute (m : ConnectionManager) : Command → Program Reply
  | .connect server => do
      match ← m.connect server with
      | .error e => return .connected (.error e)
      | .ok c => return .connected (.ok (← operate (.getClient c.number)))
  | .logoutAll => do
      m.logoutAll
      return .done
  | .servers => return .servers m.servers
  | .connection server command =>
      match m.connection? server with
      | none => return .connection none
      | some c => return .connection (some (← c.execute command))

end VcenterAccess.ConnectionManager
