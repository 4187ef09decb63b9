import VcenterAccess.Text.Inspection

/-!
# What a session manager is asked with

A session manager hands out tokens of sessions that are authenticated already, so
that several clients share one login.
-/

namespace VcenterAccess

open Text

/-- A span of time in milliseconds. -/
structure Duration where
  /-- The number of milliseconds. -/
  milliseconds : Nat
deriving DecidableEq, Repr

namespace Duration

/-- The digits of a fraction of a second, without zeros at the end. -/
def fractionText (milliseconds : Nat) : String :=
  let digits := (toString (1000 + milliseconds)).toList.drop 1
  String.ofList (digits.reverse.dropWhile (· = '0')).reverse

/-- The span in seconds if it has one, else in milliseconds. -/
def inspect (d : Duration) : String :=
  let whole := d.milliseconds / 1000
  let rest := d.milliseconds % 1000
  if whole = 0 then if rest = 0 then "0ns" else toString rest ++ "ms"
  else if rest = 0 then toString whole ++ "s"
  else toString whole ++ "." ++ fractionText rest ++ "s"

example : inspect ⟨5000⟩ = "5s" := by decide
example : inspect ⟨1050⟩ = "1.05s" := by decide

end Duration

/-- How long a session manager may take if nothing is said about it. -/
def defaultTimeout : Duration := ⟨5000⟩

/-- Where and how a shared token is asked for. -/
structure SharedTokenOptions where
  /-- Where the session manager is reached. -/
  url : String
  /-- What authenticates at the session manager.  Never shown. -/
  token : String
  /-- How long it may take. -/
  timeout : Duration := defaultTimeout
  /-- Whether its certificate is not verified. -/
  insecure : Bool := false
deriving DecidableEq, Repr

namespace SharedTokenOptions

/-- The options without the token. -/
def inspect (o : SharedTokenOptions) : String :=
  inspectRecord "SharedTokenOptions"
    [("url", quote o.url), ("timeout", o.timeout.inspect), ("insecure", inspectBool o.insecure)]

end SharedTokenOptions

end VcenterAccess
