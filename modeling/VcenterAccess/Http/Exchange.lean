import VcenterAccess.Http.Status
import VcenterAccess.Url.Parse

/-!
# HTTP exchanges

A request with a bearer token is made, sent and sent again to where its responses
redirect it, until a response is final.  The network is a function from a request
to its response, so an exchange is a function of it.
-/

namespace VcenterAccess

open Text

/-- Why there is no response to a request. -/
inductive HttpFailure where
  /-- No request can be made. -/
  | builder
  /-- Nobody answers. -/
  | connect
  /-- The answer takes too long. -/
  | timeout
  /-- The request is redirected too often. -/
  | redirect
  /-- The answer cannot be read. -/
  | decode
  /-- The connection breaks. -/
  | request
deriving DecidableEq, Repr

/-- A request. -/
structure HttpRequest where
  /-- Where it goes. -/
  url : Url
  /-- What authenticates it, if anything does. -/
  authorization : Option String
deriving DecidableEq, Repr

/-- A response. -/
structure HttpResponse where
  status : HttpStatus
  /-- Where it redirects to, if it does. -/
  location : Option String := none
  body : List UInt8 := []
deriving DecidableEq, Repr

/-- What answers single requests. -/
abbrev Network := HttpRequest → Except HttpFailure HttpResponse

/-- The network on which nobody answers. -/
def Network.unreachable : Network := fun _ => .error .connect

namespace HttpRequest

/-- Whether a character may stand in a header.  Controls may not, but for the tab. -/
def isHeaderChar (c : Char) : Bool := c = '\t' || (0x20 ≤ c.toNat && c.toNat ≠ 0x7F)

/-- The characters other than letters and digits that a host may have in a request. -/
def hostMarks : List Char := "-._~!$&'()*+,;=".toList

/-- Whether a request can be sent to a host. -/
def isSendableHost : Url.Host → Bool
  | .name ascii => ascii.toList.all fun c => c.isAlphanum || hostMarks.contains c
  | .ipv4 _ => true
  | .ipv6 _ => true

/-- The greatest length of a URL that a request can be sent to. -/
def maxUrlLength : Nat := 65534

/-- Whether a request can be sent to a URL.  User and password are not sent with
it. -/
def isSendable (u : Url) : Bool :=
  isSendableHost u.host
    && { u with username := "", password := "" }.text.utf8ByteSize ≤ maxUrlLength

/-- The request for a URL with a bearer token. -/
def bearing (url token : String) : Except HttpFailure HttpRequest :=
  match Url.parse url with
  | .error _ => .error .builder
  | .ok u =>
      if isSendable u && token.toList.all isHeaderChar then
        .ok ⟨u, some ("Bearer " ++ token)⟩
      else .error .builder

/-- The request that a response redirects to, if it redirects at all.  The token
is sent only to the host and port that it was sent to before. -/
def redirected? (r : HttpRequest) (response : HttpResponse) :
    Except HttpFailure (Option HttpRequest) :=
  if !response.status.isRedirect then .ok none
  else
    match response.location.map r.url.resolve with
    | none => .ok none
    | some (.error .otherScheme) => .error .builder
    | some (.error _) => .ok none
    | some (.ok u) =>
        if !isSendable u then .ok none
        else if u.host = r.url.host && u.effectivePort = r.url.effectivePort then
          .ok (some ⟨u, r.authorization⟩)
        else .ok (some ⟨u, none⟩)

/-- The number of redirections that are followed. -/
def maxRedirects : Nat := 10

/-- Send a request, and follow some redirections. -/
def follow (network : Network) : Nat → HttpRequest → Except HttpFailure HttpResponse
  | redirects, r => do
      let response ← network r
      match ← r.redirected? response with
      | none => .ok response
      | some next =>
          match redirects with
          | 0 => .error .redirect
          | redirects + 1 => follow network redirects next
termination_by structural redirects => redirects

/-- Send a request and follow its redirections. -/
def send (network : Network) (r : HttpRequest) : Except HttpFailure HttpResponse :=
  r.follow network maxRedirects

end HttpRequest

end VcenterAccess
