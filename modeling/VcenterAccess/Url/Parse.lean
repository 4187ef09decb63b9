import VcenterAccess.Text.Blank
import VcenterAccess.Url.Basic

/-!
# Reading URLs

A text is read as a URL of the web the way a browser reads it: controls and
blanks around it do not count, nor do tabs and line ends within it, a backslash
is a slash, any number of slashes may stand before the host, and the path is
freed of dot segments.  `parse` reads a URL that stands for itself, `resolve` one
that may leave out what it shares with the URL it is found at.
-/

namespace VcenterAccess

open Text

namespace Url

/-! ## The text -/

/-- Whether a character is a control or the blank. -/
def isControlOrBlank (c : Char) : Bool := c.toNat ≤ 0x20

/-- The characters of a text that count. -/
def significant (cs : List Char) : List Char :=
  (dropEndWhile isControlOrBlank (cs.dropWhile isControlOrBlank)).filter fun c =>
    c ≠ '\t' && c ≠ '\n' && c ≠ '\r'

/-- Whether a character separates the segments of a path. -/
def isSlash (c : Char) : Bool := c = '/' || c = '\\'

/-- Whether a character ends what stands before the path. -/
def endsAuthority (c : Char) : Bool := isSlash c || c = '?' || c = '#'

/-- Whether a character may stand in the name of a scheme. -/
def isSchemeChar (c : Char) : Bool := c.isAlphanum || c = '+' || c = '-' || c = '.'

/-- The name of the scheme in small letters, and what stands after its colon. -/
def splitScheme? (cs : List Char) : Option (List Char × List Char) :=
  if !cs.head?.any Char.isAlpha then none
  else
    match cs.span isSchemeChar with
    | (name, ':' :: rest) => some (name.map Char.toLower, rest)
    | _ => none

/-! ## User information, host and port -/

/-- What stands before and after the last at sign. -/
def splitAtLastAt? : List Char → Option (List Char × List Char)
  | [] => none
  | c :: cs =>
      match splitAtLastAt? cs with
      | some (before, after) => some (c :: before, after)
      | none => if c = '@' then some ([], cs) else none
termination_by structural cs => cs

/-- User and password as they are written. -/
def readUserInfo (cs : List Char) : String × String :=
  let (user, password) := cs.span (· ≠ ':')
  (String.ofList (percentEncode escapesInUserInfo user),
    String.ofList (percentEncode escapesInUserInfo (password.drop 1)))

/-- The host, and from the first colon outside brackets on the port. -/
def splitHost (bracketed : Bool) : List Char → List Char × List Char
  | [] => ([], [])
  | c :: cs =>
      if c = ':' && !bracketed then ([], c :: cs)
      else
        let (host, port) := splitHost (if c = '[' then true else if c = ']' then false else bracketed) cs
        (c :: host, port)
termination_by structural cs => cs

/-- The number that digits stand for. -/
def portNumber? : Nat → List Char → Option Nat
  | n, [] => some n
  | n, c :: cs => if c.isDigit then portNumber? (n * 10 + (c.toNat - 0x30)) cs else none
termination_by structural _ cs => cs

/-- The port after a host; nothing stands for the port of the scheme. -/
def readPort (scheme : WebScheme) (cs : List Char) : Except UrlError (Option UInt16) :=
  match cs.drop 1 with
  | [] => .ok none
  | digits =>
      match portNumber? 0 digits with
      | none => .error .invalidPort
      | some n =>
          if 0xFFFF < n then .error .invalidPort
          else if UInt16.ofNat n = scheme.defaultPort then .ok none
          else .ok (some (UInt16.ofNat n))

/-! ## Path, query and fragment -/

/-- Whether a segment stands for the place where it is. -/
def isSingleDot (s : List Char) : Bool :=
  s = ['.'] || s.map Char.toLower = "%2e".toList

/-- Whether a segment stands for the place above. -/
def isDoubleDot (s : List Char) : Bool :=
  ["..", ".%2e", "%2e.", "%2e%2e"].contains (String.ofList (s.map Char.toLower))

/-- Put segments behind others.  A dot segment at the end leaves an empty one. -/
def appendSegments (path : List String) : List (List Char) → List String
  | [] => path
  | s :: rest =>
      let path' :=
        if isDoubleDot s then path.dropLast
        else if isSingleDot s then path
        else path ++ [String.ofList (percentEncode escapesInPath s)]
      if rest.isEmpty && (isDoubleDot s || isSingleDot s) then path' ++ [""]
      else appendSegments path' rest
termination_by structural rest => rest

/-- The segments of a path without its first slash. -/
def segments (cs : List Char) : List (List Char) :=
  pieces '/' (cs.map fun c => if c = '\\' then '/' else c)

/-- Query and fragment. -/
def readSuffix (cs : List Char) : Option String × Option String :=
  let (query, fragment) := cs.span (· ≠ '#')
  let query := match query with
    | '?' :: q => some (String.ofList (percentEncode escapesInQuery q))
    | _ => none
  let fragment := match fragment with
    | '#' :: f => some (String.ofList (percentEncode escapesInFragment f))
    | _ => none
  (query, fragment)

/-- What stands before the query and the fragment, and those two. -/
def splitSuffix (cs : List Char) : List Char × List Char := cs.span fun c => c ≠ '?' && c ≠ '#'

/-- Read what stands after the slashes behind the scheme. -/
def readAuthority (scheme : WebScheme) (cs : List Char) : Except UrlError Url := do
  let (authority, rest) := cs.span (!endsAuthority ·)
  let (userInfo, hostPort) := (splitAtLastAt? authority).getD ([], authority)
  let (host, port) := splitHost false hostPort
  let host ← Host.parse host
  let port ← readPort scheme port
  let (path, suffix) := splitSuffix rest
  let (username, password) := readUserInfo userInfo
  let (query, fragment) := readSuffix suffix
  return ⟨scheme, username, password, host, port, appendSegments [] (segments (path.drop 1)), query,
    fragment⟩

/-- Read a URL that stands for itself. -/
def parse (s : String) : Except UrlError Url :=
  match splitScheme? (significant s.toList) with
  | none => .error .noScheme
  | some (name, rest) =>
      match WebScheme.ofName? name with
      | none => .error .otherScheme
      | some scheme => readAuthority scheme (rest.dropWhile isSlash)

/-! ## Relative URLs -/

/-- Read a URL without a scheme at a base. -/
def readRelative (base : Url) (cs : List Char) : Except UrlError Url :=
  let slashes := (cs.takeWhile isSlash).length
  if 2 ≤ slashes then readAuthority base.scheme (cs.dropWhile isSlash)
  else
    let (path, suffix) := splitSuffix cs
    let (query, fragment) := readSuffix suffix
    if slashes = 1 then
      .ok { base with path := appendSegments [] (segments (path.drop 1)), query, fragment }
    else if path.isEmpty then .ok { base with query := query.or base.query, fragment }
    else
      .ok { base with
        path := appendSegments base.path.dropLast (segments path), query, fragment }

/-- Read a URL that is found at a base. -/
def resolve (base : Url) (s : String) : Except UrlError Url :=
  let cs := significant s.toList
  match splitScheme? cs with
  | none => readRelative base cs
  | some (name, rest) =>
      match WebScheme.ofName? name with
      | none => .error .otherScheme
      | some scheme =>
          if scheme = base.scheme && (rest.takeWhile isSlash).length < 2 then readRelative base rest
          else readAuthority scheme (rest.dropWhile isSlash)

end Url

end VcenterAccess
