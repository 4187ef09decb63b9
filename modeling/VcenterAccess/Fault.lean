/-!
# Faults

How a call to a vCenter can fail.  A temporary failure is worth another try, a
rejected login means that the credentials are no longer the right ones, and
anything else is neither.
-/

namespace VcenterAccess

/-- Why a call to a vCenter failed. -/
inductive Fault where
  /-- The network failed for the moment. -/
  | temporary
  /-- The vCenter rejected the login. -/
  | invalidLogin
  /-- Something else went wrong. -/
  | other (description : String)
deriving DecidableEq, Inhabited, Repr

namespace Fault

/-- The message of a fault. -/
def message : Fault → String
  | temporary => "connection reset by peer"
  | invalidLogin => "incorrect user name or password"
  | other description => description

/-- Whether the vCenter rejected the login. -/
def isInvalidLogin (f : Fault) : Bool := f = invalidLogin

/-- Whether another try may succeed. -/
def isTemporary (f : Fault) : Bool := f = temporary

end Fault

end VcenterAccess
