import VcenterAccess.Credential.Basic
import VcenterAccess.Secret.Key
import VcenterAccess.Text.Blank
import VcenterAccess.Text.Utf8

/-!
# Reading the payload of a Secret

The payload of a Secret is a table of bytes.  `SecretPayload.parse` reads it as
the credentials of vCenters, all or nothing, in five steps.

1. Every key is classified.  The least key that is neither legacy nor indexed is
   an error.
2. The legacy values are gathered by server, the indexed ones by index.
3. Every index has to be complete.  The least one that is not is an error.
4. The indexed logins are put over the legacy ones, by increasing index.
5. Every credential has to be complete.  The least server whose credential is
   not is an error.
-/

namespace VcenterAccess

open Text

/-- The values of a Secret, as bytes by key. -/
abbrev SecretPayload := Table (List UInt8)

/-- Why a payload holds no credentials. -/
inductive ParseError where
  /-- A key is neither legacy nor indexed. -/
  | unknownKey (key : String)
  /-- There is nothing at all, or a server misses half of a pair. -/
  | credentialMissing (server : Option String)
  /-- An index has no server. -/
  | incompleteIndex (index : String)
deriving DecidableEq, Repr

/-- The message of an error. -/
def ParseError.message : ParseError → String
  | unknownKey key => "unknown secret key " ++ quote key
  | credentialMissing none => "credentials missing"
  | credentialMissing (some server) => "credentials missing for server " ++ quote server
  | incompleteIndex index =>
      "incomplete credential set for index " ++ quote index
        ++ ", expected username, password and server"

/-- The values of one index. -/
structure IndexedCredential where
  /-- The server the login is for. -/
  server : String := ""
  /-- The user name. -/
  username : String := ""
  password : String := ""
deriving DecidableEq, Inhabited, Repr

namespace SecretPayload

/-- The text of a value: invalid parts are replaced, line feeds at the end cut. -/
def decodeValue (bytes : List UInt8) : String :=
  String.ofList (trimNewlines (Utf8.decodeLossy bytes))

/-- Set a field of a credential. -/
def setLegacy (field : LegacyField) (value : String) (c : Credential) : Credential :=
  match field with
  | .username => { c with user := value }
  | .password => { c with password := value }
  | .sessionManagerUrl => { c with sessionManagerUrl := value }
  | .sessionManagerToken => { c with sessionManagerToken := value }

/-- Set a field of an index. -/
def setIndexed (field : IndexedField) (value : String) (c : IndexedCredential) :
    IndexedCredential :=
  match field with
  | .username => { c with username := value }
  | .password => { c with password := value }
  | .server => { c with server := value }

/-- A classified key with the text of its value. -/
abbrev Item := SecretKey × String

/-- Classify the key of an entry and decode its value. -/
def readItem (entry : String × List UInt8) : Except ParseError Item :=
  match SecretKey.classify? entry.1 with
  | some key => .ok (key, decodeValue entry.2)
  | none => .error (.unknownKey entry.1)

/-- Gather a legacy value under its server. -/
def gatherLegacy (table : CredentialTable) : Item → CredentialTable
  | (.legacy server field, value) => table.modify server {} (setLegacy field value)
  | (.indexed _ _, _) => table

/-- Gather an indexed value under its index. -/
def gatherIndexed (table : Table IndexedCredential) : Item → Table IndexedCredential
  | (.indexed index field, value) => table.modify index {} (setIndexed field value)
  | (.legacy _ _, _) => table

/-- An index needs a server, and its server a user and a password. -/
def checkIndex (index : String) (c : IndexedCredential) : Except ParseError Unit :=
  if c.server.isEmpty then .error (.incompleteIndex index)
  else if c.username.isEmpty || c.password.isEmpty then .error (.credentialMissing (some c.server))
  else .ok ()

/-- Put the login of an index over the login of its server. -/
def overlay (table : CredentialTable) (c : IndexedCredential) : CredentialTable :=
  table.modify c.server {} fun old => { old with user := c.username, password := c.password }

/-- The credential of a server has to be complete. -/
def checkServer (server : String) (c : Credential) : Except ParseError Unit :=
  if c.isComplete then .ok () else .error (.credentialMissing (some server))

/-- Read the credentials out of a payload. -/
def parse (payload : SecretPayload) : Except ParseError CredentialTable := do
  if payload.isEmpty then throw (.credentialMissing none)
  let items ← payload.toList.mapM readItem
  let indexed := items.foldl gatherIndexed ∅
  indexed.toList.forM fun entry => checkIndex entry.1 entry.2
  let table := indexed.toList.foldl (fun table entry => overlay table entry.2)
    (items.foldl gatherLegacy ∅)
  table.toList.forM fun entry => checkServer entry.1 entry.2
  return table

/-- A payload given as a list of entries, with texts for values. -/
def ofTexts (entries : List (String × String)) : SecretPayload :=
  Table.ofList (entries.map fun e => (e.1, Utf8.ofText e.2))

example : (parse (ofTexts [("a.username", "u\n"), ("a.password", "p")])).toOption
    = some (Table.ofList [("a", { user := "u", password := "p" })]) := by decide +kernel

end SecretPayload

end VcenterAccess
