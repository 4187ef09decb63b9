import VcenterAccess.Text.Strip

/-!
# Keys of a credential Secret

A Secret names its values in one of two ways.  In the *legacy* way a key is a
server followed by the suffix of a field, `10.0.0.1.username`.  In the *indexed*
way a key is the head word of a field followed by an index, `username_0`, and
the server is a value of its own, `server_0`.

`SecretKey.classify?` reads a key and `SecretKey.text` writes it.  Where both
readings are possible the legacy one wins.  What cutting a text at one of its
ends means is said by `stripEnd?_eq_some_iff` and `stripStart?_eq_some_iff`.
-/

namespace VcenterAccess

open Text

/-! ## Fields and keys -/

/-- A field of a credential in the legacy way. -/
inductive LegacyField where
  /-- The user name. -/
  | username
  | password
  | sessionManagerUrl
  | sessionManagerToken
deriving DecidableEq, Repr

/-- A field of a credential in the indexed way. -/
inductive IndexedField where
  /-- The user name. -/
  | username
  | password
  /-- The server the credential is for. -/
  | server
deriving DecidableEq, Repr

namespace LegacyField

/-- What a key of the field ends in. -/
def suffix : LegacyField → String
  | username => ".username"
  | password => ".password"
  | sessionManagerUrl => ".vc-session-manager-url"
  | sessionManagerToken => ".vc-session-manager-token"

/-- All fields, in the order in which their suffixes are tried. -/
def all : List LegacyField := [username, password, sessionManagerUrl, sessionManagerToken]

end LegacyField

namespace IndexedField

/-- What a key of the field starts with. -/
def head : IndexedField → String
  | username => "username_"
  | password => "password_"
  | server => "server_"

/-- All fields, in the order in which their head words are tried. -/
def all : List IndexedField := [username, password, server]

end IndexedField

/-- A key of a credential Secret. -/
inductive SecretKey where
  | legacy (server : String) (field : LegacyField)
  | indexed (index : String) (field : IndexedField)
deriving DecidableEq, Repr

namespace SecretKey

/-- The text of a key. -/
def text : SecretKey → String
  | legacy server field => server ++ field.suffix
  | indexed index field => field.head ++ index

/-- A text, unless it is empty. -/
def nonEmpty? (cs : List Char) : Option String :=
  if cs = [] then none else some (String.ofList cs)

/-- Read a key in the legacy way. -/
def legacy? (key : String) : Option SecretKey :=
  LegacyField.all.findSome? fun field =>
    (stripEnd? field.suffix.toList key.toList).bind fun rest =>
      (nonEmpty? rest).map fun server => legacy server field

/-- Read a key in the indexed way. -/
def indexed? (key : String) : Option SecretKey :=
  IndexedField.all.findSome? fun field =>
    (stripStart? field.head.toList key.toList).bind fun rest =>
      (nonEmpty? rest).map fun index => indexed index field

/-- Read a key.  The server and the index are never empty. -/
def classify? (key : String) : Option SecretKey :=
  (legacy? key).or (indexed? key)

example : classify? "10.0.0.1.username" = some (legacy "10.0.0.1" .username) := by decide
example : classify? "server_0" = some (indexed "0" .server) := by decide
example : classify? "username_0.password" = some (legacy "username_0" .password) := by decide
example : classify? ".username" = none := by decide
example : classify? "password_" = none := by decide
example : classify? "server_.username" = some (legacy "server_" .username) := by decide

end SecretKey

end VcenterAccess
