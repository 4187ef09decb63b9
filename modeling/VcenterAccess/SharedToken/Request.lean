import VcenterAccess.Http.Exchange
import VcenterAccess.Json.Value
import VcenterAccess.SharedToken.Options

/-!
# Asking for a shared token

A session manager is asked only if there is a URL and a token.  Its response
counts only with status 200, and its body must hold a token that is not empty.

What comes back from the exchange is an argument: either a failure, or the final
response.
-/

namespace VcenterAccess

open Text

/-- Why there is no shared token. -/
inductive SharedTokenError where
  /-- There is no URL to ask. -/
  | emptyUrl
  /-- There is no token to ask with. -/
  | emptyToken
  /-- There is no response. -/
  | sendRequest (url : String) (cause : HttpFailure)
  /-- The response has another status than 200. -/
  | unexpectedStatus (url : String) (status : HttpStatus)
  /-- The response cannot be read. -/
  | decodeResponse (url : String)
  /-- The token in the response is empty. -/
  | emptySessionToken (url : String)
deriving DecidableEq, Repr

/-- The message of an error. -/
def SharedTokenError.message : SharedTokenError → String
  | emptyUrl => "URL of session manager cannot be empty"
  | emptyToken => "shared session token cannot be empty"
  | sendRequest url _ => "failed to request shared session token from " ++ quote url
  | unexpectedStatus url status =>
      "session manager " ++ quote url ++ " responded with unexpected status " ++ status.text
  | decodeResponse url => "failed to decode response of session manager " ++ quote url
  | emptySessionToken url => "session manager " ++ quote url ++ " returned an empty session token"

namespace SharedToken

/-- Whether a member of an object has the name of the token. -/
def isTokenMember (member : Option String × Json.Value) : Bool := member.1 = some "token"

/-- The token in a response: the only member `token` of an object, or the only
element of an array. -/
def ofJson? : Json.Value → Option String
  | .object members =>
      if members.any fun m => m.1.isNone then none
      else
        match members.filter isTokenMember with
        | [(_, .string token)] => token
        | _ => none
  | .array [.string token] => token
  | _ => none

/-- The token in a body. -/
def decode? (body : List UInt8) : Option String := (Json.parse? body).bind ofJson?

/-- What a response says. -/
def ofResponse (url : String) (r : HttpResponse) : Except SharedTokenError String :=
  if r.status ≠ .ok then .error (.unexpectedStatus url r.status)
  else
    match decode? r.body with
    | none => .error (.decodeResponse url)
    | some token => if token.isEmpty then .error (.emptySessionToken url) else .ok token

end SharedToken

namespace SharedTokenOptions

/-- What is missing before a session manager can be asked. -/
def missing? (o : SharedTokenOptions) : Option SharedTokenError :=
  if o.url.isEmpty then some .emptyUrl
  else if o.token.isEmpty then some .emptyToken
  else none

/-- What an exchange with the session manager says. -/
def judge (o : SharedTokenOptions) (outcome : Except HttpFailure HttpResponse) :
    Except SharedTokenError String :=
  match outcome with
  | .error cause => .error (.sendRequest o.url cause)
  | .ok response => SharedToken.ofResponse o.url response

/-- Ask a session manager, with the exchange as it comes out if it takes place. -/
def request (exchange : SharedTokenOptions → Except HttpFailure HttpResponse)
    (o : SharedTokenOptions) : Except SharedTokenError String :=
  match o.missing? with
  | some e => .error e
  | none => o.judge (exchange o)

/-- The exchange over a network. -/
def exchange (network : Network) (o : SharedTokenOptions) : Except HttpFailure HttpResponse :=
  match HttpRequest.bearing o.url o.token with
  | .error cause => .error cause
  | .ok r => r.send network

/-- Ask a session manager over a network. -/
def requestOver (network : Network) (o : SharedTokenOptions) : Except SharedTokenError String :=
  o.request (exchange network)

end SharedTokenOptions

end VcenterAccess
