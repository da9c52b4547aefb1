import CertLifecycle.Text.Digits
import CertLifecycle.Text.Split

/-!
IPv4 addresses and their dotted text.
-/

namespace CertLifecycle.Ip

/-- An IPv4 address: four octets, the most significant first. -/
structure V4 where
  a : UInt8
  b : UInt8
  c : UInt8
  d : UInt8
  deriving DecidableEq

namespace V4

def octets (ip : V4) : List UInt8 :=
  [ip.a, ip.b, ip.c, ip.d]

/-- The address with these octets, if there are four. -/
def ofOctets? : List UInt8 → Option V4
  | [a, b, c, d] => some ⟨a, b, c, d⟩
  | _ => none

/-- The address with this value as a 32-bit number. -/
def ofNat (n : Nat) : V4 :=
  ⟨UInt8.ofNat (n / 0x1000000), UInt8.ofNat (n / 0x10000), UInt8.ofNat (n / 0x100), UInt8.ofNat n⟩

/-- One part of a dotted text: one to three digits without a leading zero, at most 255. -/
def octet? (cs : List Char) : Option UInt8 :=
  if cs.length > 3 ∨ (cs.length > 1 ∧ cs.head? = some '0') then none
  else do
    let value ← Text.nat? 10 cs
    if value < 256 then some (UInt8.ofNat value) else none

/-- Reads a dotted text: four parts in decimal. -/
def parse? (cs : List Char) : Option V4 := do
  ofOctets? (← (Text.pieces '.' cs).mapM octet?)

def text (ip : V4) : List Char :=
  Text.join ['.'] (ip.octets.map fun octet => Text.natChars 10 octet.toNat)

end V4

end CertLifecycle.Ip
