import VcenterAccess.Der.Oid
import VcenterAccess.Text.Hex
import VcenterAccess.Text.Utf8

/-!
# Names in certificates

A name is a sequence of relative names, each a set of attributes.  As a text the
last relative name comes first, with commas between relative names and plus
signs between their attributes.

An attribute is written with its short name and its text if both are known, and
otherwise with its number and the encoding of its value.
-/

namespace VcenterAccess.Certificate

open Der Text

/-- An attribute of a name. -/
structure Attribute where
  /-- What the attribute says. -/
  oid : Oid
  value : Element
  /-- The encoding of both. -/
  encoded : List UInt8
deriving DecidableEq, Repr

/-- Attributes that belong together, in the order of their encodings. -/
abbrev RelativeName := List Attribute

/-- A name, the outermost part first. -/
abbrev Name := List RelativeName

/-! ## Reading -/

/-- An attribute. -/
def nameAttribute : Reader Attribute := do
  let e ← element
  if e.tag ≠ 0x30 then failure
  match whole? (do return (← oid, ← element)) e.content with
  | some (o, value) => pure ⟨o, value, e.encoded⟩
  | none => failure

/-- Whether one list of bytes stands before another. -/
def bytesBefore : List UInt8 → List UInt8 → Bool
  | [], [] => false
  | [], _ :: _ => true
  | _ :: _, [] => false
  | a :: as, b :: bs => if a = b then bytesBefore as bs else a < b

/-- Put an attribute at its place among others; the same may not be there yet. -/
def insertAttribute? (a : Attribute) : RelativeName → Option RelativeName
  | [] => some [a]
  | b :: rest =>
      if a.encoded = b.encoded then none
      else if bytesBefore a.encoded b.encoded then some (a :: b :: rest)
      else (insertAttribute? a rest).map (b :: ·)

/-- Attributes in the order of their encodings, none of them twice. -/
def sortAttributes? (as : List Attribute) : Option RelativeName :=
  as.foldlM (fun sorted a => insertAttribute? a sorted) []

/-- A relative name. -/
def relativeName : Reader RelativeName := do
  match sortAttributes? (← many 0x31 nameAttribute) with
  | some r => pure r
  | none => failure

/-- A name. -/
def name : Reader Name := many 0x30 relativeName

/-! ## Writing -/

/-- The short names of attributes. -/
def shortNames : List (Oid × String) :=
  [([2, 5, 4, 3], "CN"), ([2, 5, 4, 4], "SN"), ([2, 5, 4, 5], "SERIALNUMBER"), ([2, 5, 4, 6], "C"),
    ([2, 5, 4, 7], "L"), ([2, 5, 4, 8], "ST"), ([2, 5, 4, 9], "STREET"), ([2, 5, 4, 10], "O"),
    ([2, 5, 4, 11], "OU"), ([2, 5, 4, 12], "TITLE"), ([2, 5, 4, 13], "DESCRIPTION"),
    ([2, 5, 4, 14], "SEARCHGUIDE"), ([2, 5, 4, 15], "BUSINESSCATEGORY"),
    ([2, 5, 4, 16], "POSTALADDRESS"), ([2, 5, 4, 17], "POSTALCODE"),
    ([2, 5, 4, 18], "POSTOFFICEBOX"), ([2, 5, 4, 19], "PHYSICALDELIVERYOFFICENAME"),
    ([2, 5, 4, 20], "TELEPHONENUMBER"), ([2, 5, 4, 21], "TELEXNUMBER"),
    ([2, 5, 4, 22], "TELETEXTERMINALIDENTIFIER"), ([2, 5, 4, 23], "FACSIMILETELEPHONENUMBER"),
    ([2, 5, 4, 24], "X121ADDRESS"), ([2, 5, 4, 25], "INTERNATIONALISDNNUMBER"),
    ([2, 5, 4, 26], "REGISTEREDADDRESS"), ([2, 5, 4, 27], "DESTINATIONINDICATOR"),
    ([2, 5, 4, 28], "PREFERREDDELIVERYMETHOD"), ([2, 5, 4, 31], "MEMBER"),
    ([2, 5, 4, 32], "OWNER"), ([2, 5, 4, 33], "ROLEOCCUPANT"), ([2, 5, 4, 34], "SEEALSO"),
    ([2, 5, 4, 35], "USERPASSWORD"), ([2, 5, 4, 41], "NAME"), ([2, 5, 4, 42], "GN"),
    ([2, 5, 4, 43], "INITIALS"), ([2, 5, 4, 44], "GENERATIONQUALIFIER"),
    ([2, 5, 4, 45], "X500UNIQUEIDENTIFIER"), ([2, 5, 4, 46], "DNQUALIFIER"),
    ([2, 5, 4, 47], "ENHANCEDSEARCHGUIDE"), ([2, 5, 4, 49], "DISTINGUISHEDNAME"),
    ([2, 5, 4, 50], "UNIQUEMEMBER"), ([2, 5, 4, 51], "HOUSEIDENTIFIER"),
    ([2, 5, 4, 65], "PSEUDONYM"), ([0, 9, 2342, 19200300, 100, 1, 1], "UID"),
    ([0, 9, 2342, 19200300, 100, 1, 3], "MAIL"), ([0, 9, 2342, 19200300, 100, 1, 25], "DC"),
    ([1, 2, 840, 113549, 1, 9, 1], "EMAIL")]

/-- A character of the printable strings. -/
def isPrintable (c : Char) : Bool :=
  c.isAlphanum || " '()+,-./:=?".toList.contains c

/-- The text of a value, if its kind is known and its characters are of it. -/
def textOf? (e : Element) : Option (List Char) :=
  (Utf8.decode? e.content).bind fun cs =>
    if e.tag = 0x0C then some cs
    else if e.tag = 0x13 then if cs.all isPrintable then some cs else none
    else if e.tag = 0x14 || e.tag = 0x16 then if cs.all (·.toNat < 0x80) then some cs else none
    else none

/-- How a character of a text is written; `first` and `last` say where it stands. -/
def escapeChar (first last : Bool) (c : Char) : List Char :=
  if c = '#' && first then ['\\', '#']
  else if c = ' ' && (first || last) then ['\\', ' ']
  else if "\"+,;<>\\".toList.contains c then ['\\', c]
  else if c.toNat < 0x20 || c.toNat = 0x7F then '\\' :: Hex.ofByte (UInt8.ofNat c.toNat)
  else [c]

/-- A text with the characters escaped that have a meaning in names. -/
def escape (first : Bool) : List Char → List Char
  | [] => []
  | c :: cs => escapeChar first cs.isEmpty c ++ escape false cs

/-- An attribute as a text. -/
def Attribute.text (a : Attribute) : String :=
  match (shortNames.find? fun n => n.1 = a.oid), textOf? a.value with
  | some (_, short), some cs => short ++ "=" ++ String.ofList (escape true cs)
  | _, _ => a.oid.dotted ++ "=#" ++ String.ofList (Hex.encode a.value.encoded)

/-- A name as a text. -/
def Name.text (n : Name) : String :=
  String.intercalate "," (n.reverse.map fun r => String.intercalate "+" (r.map Attribute.text))

end VcenterAccess.Certificate
