import VcenterAccess.DomainName.Label

/-!
# Domain names in ASCII

The form of a domain name that is looked up: mapped, composed, label by label
checked and written in ASCII (Unicode Technical Standard 46).  Neither the
lengths of labels nor their hyphens are looked at.
-/

namespace VcenterAccess.DomainName

open Text

/-- Whether a character of ASCII never occurs in a name: controls, the blank and
what separates the parts of a URL. -/
def isForbidden (c : Char) : Bool :=
  c.toNat ≤ 0x20 || c.toNat = 0x7F || "#%/:<>?@[\\]^|".toList.contains c

/-- The name in ASCII, or nothing if it is no domain name. -/
def toAscii? (name : List Char) : Option (List Char) := do
  let mapped ← mapText? name
  let labels ← (pieces '.' (compose mapped)).mapM decodeLabel?
  guard (labels.all isWellFormed)
  guard (!labels.any (·.any isRightToLeft) || labels.all hasOneDirection)
  let ascii := joinPieces '.' (labels.map encodeLabel)
  guard (!ascii.any isForbidden)
  return ascii

example : toAscii? "VC.Example.COM".toList = some "vc.example.com".toList := by decide +kernel
example : toAscii? "a b".toList = none := by decide +kernel

end VcenterAccess.DomainName
