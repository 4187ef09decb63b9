import VcenterAccess.Assignment
import VcenterAccess.Session.Question

/-!
# A simulated vCenter

The simulated vCenter knows users, certificate subjects and tokens, and keeps one
session per client.  Calls are recorded before anything else happens, and can be
made to fail beforehand.

Logins with a password can be held up: while the gate is on, each of them needs a
permit.  Permits are handed out in the order of arrival, and those that nobody waits
for are kept.  Whether the user is accepted is decided once the permit is there.
-/

namespace VcenterAccess

/-- The calls that can be made to fail. -/
inductive CallKind where
  | newClient | login | issueToken | loginByToken | cloneSession | userSession | logout
deriving DecidableEq, Repr

/-- What a source of shared tokens says once. -/
inductive TokenReply where
  | token (token : String)
  /-- There is no URL. -/
  | emptyUrl
  /-- There is no token to ask with. -/
  | emptyToken
  /-- There is no token to be had. -/
  | emptySessionToken
deriving DecidableEq, Repr

/-- The reply to a request at a URL. -/
def TokenReply.result (url : String) : TokenReply → Except SharedTokenError String
  | .token text => .ok text
  | .emptyUrl => .error .emptyUrl
  | .emptyToken => .error .emptyToken
  | .emptySessionToken => .error (.emptySessionToken url)

/-- The state of a simulated vCenter. -/
structure Vcenter where
  /-- The number of the last client. -/
  clients : Nat := 0
  /-- Who is logged in with each client. -/
  session : Nat → Option String := fun _ => none
  /-- The passwords of the accepted users. -/
  users : Table String := ∅
  /-- The accepted certificate subjects. -/
  subjects : List String := []
  /-- The accepted tokens. -/
  tokens : List String := []
  /-- The outcomes of calls to come.  A call takes the first one of its kind. -/
  script : List (CallKind × Option Fault) := []
  /-- The replies of the source of shared tokens to come. -/
  tokenReplies : List TokenReply := []
  /-- Whether logins with a password that begin now need a permit. -/
  gated : Bool := false
  /-- The permits that nobody waits for. -/
  permits : Nat := 0
  /-- The tasks that wait for a permit. -/
  waiting : List Nat := []
  /-- The tasks that have got a permit since they waited. -/
  granted : List Nat := []
  /-- The calls so far. -/
  calls : List Question := []

namespace Vcenter

/-! ## What can be arranged -/

/-- Accept a user with a password from now on. -/
def acceptUser (v : Vcenter) (user password : String) : Vcenter :=
  { v with users := v.users.insert user password }

/-- Do not accept a user any longer. -/
def rejectUser (v : Vcenter) (user : String) : Vcenter := { v with users := v.users.erase user }

/-- Accept a certificate subject from now on. -/
def acceptSubject (v : Vcenter) (subject : String) : Vcenter :=
  { v with subjects := subject :: v.subjects }

/-- Accept a token from now on. -/
def acceptToken (v : Vcenter) (token : String) : Vcenter := { v with tokens := token :: v.tokens }

/-- Do not accept a token any longer. -/
def revokeToken (v : Vcenter) (token : String) : Vcenter :=
  { v with tokens := v.tokens.filter (· ≠ token) }

/-- End all sessions. -/
def expire (v : Vcenter) : Vcenter := { v with session := fun _ => none }

/-- Decide the outcomes of the next calls of a kind. -/
def schedule (v : Vcenter) (kind : CallKind) (outcomes : List (Option Fault)) : Vcenter :=
  { v with script := v.script ++ outcomes.map fun outcome => (kind, outcome) }

/-- Decide the next replies of the source of shared tokens. -/
def replyTokens (v : Vcenter) (replies : List TokenReply) : Vcenter :=
  { v with tokenReplies := v.tokenReplies ++ replies }

/-- Turn the gate on or off. -/
def setGate (v : Vcenter) (on : Bool) : Vcenter := { v with gated := on }

/-- Hand out permits to those who wait, and keep the rest. -/
def release (v : Vcenter) (permits : Nat) : List Nat × Vcenter :=
  let available := v.permits + permits
  let served := v.waiting.take available
  (served,
    { v with
      permits := available - served.length
      waiting := v.waiting.drop available
      granted := v.granted ++ served })

/-- The sessions by client. -/
def sessions (v : Vcenter) : List (Nat × String) :=
  (List.range (v.clients + 1)).filterMap fun client =>
    (v.session client).map fun user => (client, user)

/-! ## How calls are answered -/

/-- Record a call. -/
def record (v : Vcenter) (call : Question) : Vcenter := { v with calls := v.calls ++ [call] }

/-- Take the next outcome of a kind of calls. -/
def takeOutcome (kind : CallKind) :
    List (CallKind × Option Fault) → Option Fault × List (CallKind × Option Fault)
  | [] => (none, [])
  | (k, outcome) :: rest =>
      if k = kind then (outcome, rest)
      else
        let (found, rest) := takeOutcome kind rest
        (found, (k, outcome) :: rest)

/-- Fail if that was decided beforehand, and proceed otherwise. -/
def unlessFaulty {α : Type} (v : Vcenter) (kind : CallKind)
    (proceed : Vcenter → Except Fault α × Vcenter) : Except Fault α × Vcenter :=
  let (outcome, script) := takeOutcome kind v.script
  match outcome with
  | some fault => (.error fault, { v with script })
  | none => proceed { v with script }

/-- Begin or replace the session of a client. -/
def openSession (v : Vcenter) (client : Client) (user : String) : Vcenter :=
  { v with session := assign v.session client.number (some user) }

/-- Check user and password. -/
def checkLogin (v : Vcenter) (client : Client) (username password : String) :
    Except Fault Unit × Vcenter :=
  if v.users.get? username = some password then (.ok (), v.openSession client username)
  else (.error .invalidLogin, v)

/-- Hand out a client. -/
def handOutClient (v : Vcenter) : Except Fault Client × Vcenter :=
  let number := v.clients + 1
  (.ok { number }, { v with clients := number })

/-- Issue a signer for a subject. -/
def issueSigner (subject : String) (v : Vcenter) : Except Fault Signer × Vcenter :=
  if v.subjects.contains subject then (.ok ⟨subject⟩, v) else (.error .invalidLogin, v)

/-- Let a client take over the session of a token. -/
def takeOver (client : Client) (token : String) (v : Vcenter) : Except Fault Unit × Vcenter :=
  if v.tokens.contains token then (.ok (), v.openSession client ("shared:" ++ token))
  else (.error .invalidLogin, v)

/-- End the session of a client. -/
def endSession (client : Client) (v : Vcenter) : Except Fault Unit × Vcenter :=
  (.ok (), { v with session := assign v.session client.number none })

/-- The next reply of the source of shared tokens. -/
def nextToken (v : Vcenter) (url : String) : Except SharedTokenError String × Vcenter :=
  match v.tokenReplies with
  | [] => (.error (.emptySessionToken url), v)
  | reply :: tokenReplies => (reply.result url, { v with tokenReplies })

/-- Begin a login with a password.  Without an answer, the task waits for a permit. -/
def beginLogin (v : Vcenter) (task : Nat) (client : Client) (username password : String) :
    Option (Except Fault Unit) × Vcenter :=
  let (outcome, script) := takeOutcome .login v.script
  let v := { v with script }
  match outcome with
  | some fault => (some (.error fault), v)
  | none =>
      if !v.gated then (v.checkLogin client username password).map some id
      else if v.permits = 0 then (none, { v with waiting := v.waiting ++ [task] })
      else ({ v with permits := v.permits - 1 }.checkLogin client username password).map some id

/-- Go on with a login that waits for a permit. -/
def continueLogin (v : Vcenter) (task : Nat) (client : Client) (username password : String) :
    Option (Except Fault Unit) × Vcenter :=
  if v.granted.contains task then
    ({ v with granted := v.granted.erase task }.checkLogin client username password).map some id
  else (none, v)

/-- Give up a login that waits for a permit, and pass the permit on. -/
def cancelLogin (v : Vcenter) (task : Nat) : List Nat × Vcenter :=
  if v.granted.contains task then { v with granted := v.granted.erase task }.release 1
  else ([], { v with waiting := v.waiting.filter (· ≠ task) })

end Vcenter

end VcenterAccess
