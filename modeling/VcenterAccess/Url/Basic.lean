import VcenterAccess.Text.Inspection
import VcenterAccess.Url.Host

/-!
# URLs

The parts of a URL of the web, and the text of a URL.  Every part is kept in the
form in which it is written, so `text` only puts them together.
-/

namespace VcenterAccess

open Text

/-- The schemes of the web. -/
inductive WebScheme where
  /-- Plain. -/
  | http
  /-- Over TLS. -/
  | https
deriving DecidableEq, Repr

namespace WebScheme

/-- The name of a scheme. -/
def name : WebScheme → String
  | http => "http"
  | https => "https"

/-- The port of a URL that names none. -/
def defaultPort : WebScheme → UInt16
  | http => 80
  | https => 443

/-- The scheme of a name in small letters. -/
def ofName? (name : List Char) : Option WebScheme :=
  if name = "http".toList then some http
  else if name = "https".toList then some https
  else none

end WebScheme

/-- A URL of the web. -/
structure Url where
  scheme : WebScheme
  /-- The user, or nothing. -/
  username : String
  /-- The password, or nothing. -/
  password : String
  host : Url.Host
  /-- The port, unless it is that of the scheme. -/
  port : Option UInt16
  /-- What stands between the slashes of the path. -/
  path : List String
  /-- What stands after the question mark, if there is one. -/
  query : Option String
  /-- What stands after the number sign, if there is one. -/
  fragment : Option String
deriving DecidableEq, Repr

namespace Url

/-- The port that the URL leads to. -/
def effectivePort (u : Url) : UInt16 := u.port.getD u.scheme.defaultPort

/-- The path as it is written. -/
def pathText (u : Url) : String := "/" ++ joinWith "/" u.path

/-- Path and query as they are written. -/
def target (u : Url) : String :=
  u.pathText ++ (u.query.map fun q => "?" ++ q).getD ""

/-- Whether the URL names a user or a password. -/
def hasUserInfo (u : Url) : Bool := !u.username.isEmpty || !u.password.isEmpty

/-- User and password as they are written before the host. -/
def userInfoText (u : Url) : String :=
  if !u.hasUserInfo then ""
  else u.username ++ (if u.password.isEmpty then "" else ":" ++ u.password) ++ "@"

/-- Host and port as they are written. -/
def authorityText (u : Url) : String :=
  u.host.text ++ (u.port.map fun p => ":" ++ toString p.toNat).getD ""

/-- The text of a URL. -/
def text (u : Url) : String :=
  u.scheme.name ++ "://" ++ u.userInfoText ++ u.authorityText ++ u.target
    ++ (u.fragment.map fun f => "#" ++ f).getD ""

end Url

end VcenterAccess
