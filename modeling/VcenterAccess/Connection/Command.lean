import VcenterAccess.Connection.Lifecycle

/-!
# Commands to a connection

What can be asked of a connection, and what is replied.
-/

namespace VcenterAccess.Connection

open Program

/-- What can be asked of a connection. -/
inductive Command where
  /-- Make sure that it has a client with a session. -/
  | connect
  /-- End its session. -/
  | logout
  /-- Use other credentials from the next login on. -/
  | update (credentials : SessionCredentials)
  /-- Tell its options. -/
  | options
  /-- Show it to a person. -/
  | inspect
deriving DecidableEq, Repr

/-- What a connection replies. -/
inductive Reply where
  /-- Whether it is connected. -/
  | connected (outcome : Except ConnectionError Unit)
  | done
  | options (options : ConnectionOptions)
  /-- How it is shown. -/
  | shown (text : String)

/-- Carry out a command. -/
def execute (c : Connection) : Command → Program Reply
  | .connect => return .connected (← c.connect)
  | .logout => do
      c.logout
      return .done
  | .update credentials => do
      c.updateCredentials credentials
      return .done
  | .options => return .options c.options
  | .inspect => return .shown (c.inspect (← operate (.getClient c.number)))

end VcenterAccess.Connection
