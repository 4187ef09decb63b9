import VcenterAccess.DomainName.Ascii
import VcenterAccess.Url.Ipv4
import VcenterAccess.Url.Ipv6
import VcenterAccess.Url.Percent

/-!
# Hosts

The host of a URL is a domain name or an address.  Brackets are for IPv6; all
else is decoded and brought into the form of a domain name, and is an IPv4
address if it ends in a number.
-/

namespace VcenterAccess

open Text

/-- Why a text is no URL of the web. -/
inductive UrlError where
  /-- There is no host. -/
  | emptyHost
  /-- The host is no domain name. -/
  | invalidDomain
  /-- The host ends in a number and is no IPv4 address. -/
  | invalidIpv4
  /-- The host has brackets and is no IPv6 address. -/
  | invalidIpv6
  /-- The port is no number below 65536. -/
  | invalidPort
  /-- There is no scheme. -/
  | noScheme
  /-- The scheme is none of the web. -/
  | otherScheme
deriving DecidableEq, Repr

/-- The message of an error. -/
def UrlError.message : UrlError → String
  | emptyHost => "empty host"
  | invalidDomain => "invalid international domain name"
  | invalidIpv4 => "invalid IPv4 address"
  | invalidIpv6 => "invalid IPv6 address"
  | invalidPort => "invalid port number"
  | noScheme => "relative URL without a base"
  | otherScheme => "URL scheme is not allowed"

namespace Url

/-- Where a URL leads. -/
inductive Host where
  /-- To a domain name. -/
  | name (ascii : String)
  | ipv4 (address : Ipv4)
  | ipv6 (address : Ipv6)
deriving DecidableEq, Repr

namespace Host

/-- The host as it stands in a URL. -/
def text : Host → String
  | name ascii => ascii
  | ipv4 address => address.text
  | ipv6 address => "[" ++ address.text ++ "]"

/-- Read what stands between brackets. -/
def ofBracketed (cs : List Char) : Except UrlError Host :=
  match (stripEnd? [']'] cs).bind Ipv6.parse? with
  | some address => .ok (ipv6 address)
  | none => .error .invalidIpv6

/-- Read a host without brackets. -/
def ofOpen (cs : List Char) : Except UrlError Host :=
  match (Utf8.decode? (percentDecode (Utf8.encode cs))).bind DomainName.toAscii? with
  | none => .error .invalidDomain
  | some ascii =>
      if ascii.isEmpty then .error .emptyHost
      else if Ipv4.endsInNumber ascii then
        match Ipv4.parse? ascii with
        | some address => .ok (ipv4 address)
        | none => .error .invalidIpv4
      else .ok (name (String.ofList ascii))

/-- Read a host. -/
def parse : List Char → Except UrlError Host
  | [] => .error .emptyHost
  | '[' :: cs => ofBracketed cs
  | cs => ofOpen cs

end Host

end Url

end VcenterAccess
