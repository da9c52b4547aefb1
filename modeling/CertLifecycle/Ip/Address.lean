import CertLifecycle.Ip.V6

/-!
IP addresses of either version, and their texts. In the canonical text an IPv6 address that carries
an IPv4 address is shown as that IPv4 address.
-/

namespace CertLifecycle.Ip

/-- An IPv4 or IPv6 address. -/
inductive Address where
  | v4 (ip : V4)
  | v6 (ip : V6)
  deriving DecidableEq

namespace Address

/-- Reads an address of either version. -/
def parse? (s : String) : Option Address :=
  ((V4.parse? s.toList).map v4).or ((V6.parse? s.toList).map v6)

/-- The address with a carried IPv4 address taken out. -/
def canonical : Address → Address
  | .v4 ip => .v4 ip
  | .v6 ip => (ip.mapped?.map v4).getD (.v6 ip)

/-- The text of an address; one that carries an IPv4 address shows it dotted. -/
def text : Address → String
  | .v4 ip => String.ofList ip.text
  | .v6 ip =>
    match ip.mapped? with
    | some carried => String.ofList ("::ffff:".toList ++ carried.text)
    | none => String.ofList ip.text

/-- The canonical text of an address. -/
def canonicalText (ip : Address) : String :=
  ip.canonical.text

/-- A text in canonical form if it is an address, and as it stands otherwise. -/
def normalize (s : String) : String :=
  ((parse? s).map canonicalText).getD s

end Address

end CertLifecycle.Ip
