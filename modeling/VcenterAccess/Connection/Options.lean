import VcenterAccess.Text.Inspection

/-!
# Connection options

Where a vCenter is reached, how its certificate is verified, and how often a
request to it is sent again.
-/

namespace VcenterAccess

open Text

/-- How the certificate that a vCenter presents is verified. -/
inductive TrustAnchor where
  /-- Against the root certificates of the platform. -/
  | systemRoots
  /-- Against the certificates of a bundle in PEM form. -/
  | caBundle (pem : String)
  /-- It has to be the certificate with this thumbprint. -/
  | thumbprint (digest : String)
  /-- Not at all. -/
  | insecure
deriving DecidableEq, Inhabited, Repr

/-- The trust anchor as it is shown to a person. -/
def TrustAnchor.inspect : TrustAnchor → String
  | systemRoots => "SystemRoots"
  | caBundle pem => inspectCall "CaBundle" [quote pem]
  | thumbprint digest => inspectCall "Thumbprint" [quote digest]
  | insecure => "Insecure"

/-- The port of a vCenter that names none. -/
def defaultPort : UInt16 := 443

/-- Where a vCenter is reached and how its certificate is verified. -/
structure ConnectionOptions where
  /-- The name or address of the vCenter. -/
  hostname : String
  port : UInt16 := defaultPort
  /-- How its certificate is verified. -/
  trustAnchor : TrustAnchor := .systemRoots
  /-- How often a request is sent again after a temporary failure.  Unset and
  zero ask for the usual number. -/
  retries : Option UInt32 := none
deriving DecidableEq, Inhabited, Repr

namespace ConnectionOptions

/-- The options as they are shown to a person. -/
def inspect (o : ConnectionOptions) : String :=
  inspectRecord "ConnectionOptions"
    [("hostname", quote o.hostname), ("port", toString o.port.toNat),
      ("trust_anchor", o.trustAnchor.inspect),
      ("round_tripper_count", inspectOption (fun n => toString n.toNat) o.retries)]

/-- Host and port with a colon between them.  A host with colons of its own is an
IPv6 address and gets brackets, unless it has an opening one. -/
def hostPort (o : ConnectionOptions) : String :=
  let port := toString o.port.toNat
  if o.hostname.toList.contains ':' && o.hostname.toList.head? != some '[' then
    "[" ++ o.hostname ++ "]:" ++ port
  else o.hostname ++ ":" ++ port

example : hostPort { hostname := "fd00::1" } = "[fd00::1]:443" := by decide
example : hostPort { hostname := "[fd00::1]", port := 8443 } = "[fd00::1]:8443" := by decide

end ConnectionOptions

end VcenterAccess
