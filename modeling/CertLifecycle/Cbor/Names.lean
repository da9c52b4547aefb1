import CertLifecycle.Cbor.Reader
import CertLifecycle.Cbor.Writer
import CertLifecycle.Compliance.Decoder

/-!
The CBOR form of decoded names, and the decoder that reads it. It stands in for the encoded
artifacts of a certificate authority where no real key material is at hand.
-/

namespace CertLifecycle

open Cbor (Reader)

namespace Ip.Address

/-- The CBOR form of an address: its version with its octets. -/
def toCbor : Address → List UInt8
  | .v4 ip => Cbor.ofFields [("V4", Cbor.ofList (fun octet => Cbor.ofNat octet.toNat) ip.octets)]
  | .v6 ip => Cbor.ofFields [("V6", Cbor.ofList (fun octet => Cbor.ofNat octet.toNat) ip.octets)]

def readCbor : Reader Address :=
  Reader.variant [
    ("V4", do
      let octets ← Reader.octets 4
      (V4.ofOctets? octets).map v4),
    ("V6", do
      let octets ← Reader.octets 16
      (V6.ofOctets? octets).map v6)]

end Ip.Address

namespace Uri

/-- The CBOR form of a URI: its text. -/
def toCbor (uri : Uri) : List UInt8 :=
  Cbor.ofText uri.text

def readCbor [Idna] : Reader Uri := do
  let s ← Reader.shortText
  parse? s

end Uri

namespace DistinguishedName

def toCbor (name : DistinguishedName) : List UInt8 :=
  let texts := Cbor.ofList Cbor.ofText
  Cbor.ofFields [
    ("common_name", Cbor.ofText name.commonName),
    ("serial_number", Cbor.ofText name.serialNumber),
    ("organization", texts name.organization),
    ("country", texts name.country),
    ("organizational_unit", texts name.organizationalUnit),
    ("locality", texts name.locality),
    ("province", texts name.province),
    ("street_address", texts name.streetAddress),
    ("postal_code", texts name.postalCode)]

def cborFields : List (String × Reader (DistinguishedName → DistinguishedName)) :=
  let texts := Reader.list Reader.text
  [("common_name", do
      let value ← Reader.text
      return fun name => { name with commonName := value }),
    ("serial_number", do
      let value ← Reader.text
      return fun name => { name with serialNumber := value }),
    ("organization", do
      let values ← texts
      return fun name => { name with organization := values }),
    ("country", do
      let values ← texts
      return fun name => { name with country := values }),
    ("organizational_unit", do
      let values ← texts
      return fun name => { name with organizationalUnit := values }),
    ("locality", do
      let values ← texts
      return fun name => { name with locality := values }),
    ("province", do
      let values ← texts
      return fun name => { name with province := values }),
    ("street_address", do
      let values ← texts
      return fun name => { name with streetAddress := values }),
    ("postal_code", do
      let values ← texts
      return fun name => { name with postalCode := values })]

/-- Reads a distinguished name; a field that is not given is empty. -/
def readCbor (room : Nat) : Reader DistinguishedName :=
  Reader.record cborFields room {}

end DistinguishedName

namespace ArtifactNames

/-- How deeply arrays and maps may nest. -/
def cborDepth : Nat := 256

def toCbor (names : ArtifactNames) : List UInt8 :=
  Cbor.ofFields [
    ("subject", names.subject.toCbor),
    ("dns_names", Cbor.ofList Cbor.ofText names.dnsNames),
    ("ip_addresses", Cbor.ofList Ip.Address.toCbor names.ipAddresses),
    ("uris", Cbor.ofList Uri.toCbor names.uris)]

variable [Uri.Idna]

def cborFields : List (String × Reader (ArtifactNames → ArtifactNames)) :=
  [("subject", do
      let value ← DistinguishedName.readCbor (cborDepth - 2)
      return fun names => { names with subject := value }),
    ("dns_names", do
      let values ← Reader.list Reader.text
      return fun names => { names with dnsNames := values }),
    ("ip_addresses", do
      let values ← Reader.list Ip.Address.readCbor
      return fun names => { names with ipAddresses := values }),
    ("uris", do
      let values ← Reader.list Uri.readCbor
      return fun names => { names with uris := values })]

/-- Reads decoded names; a field that is not given is empty. -/
def readCbor : Reader ArtifactNames :=
  Reader.record cborFields (cborDepth - 1) {}

/-- The names that bytes carry. What follows the first item does not count. -/
def ofCbor (bytes : List UInt8) : Except DecodeError ArtifactNames :=
  if bytes.isEmpty then .error .empty
  else
    match readCbor bytes with
    | some (names, _) => .ok names
    | none => .error (.malformed "not the CBOR form of decoded names")

/-- The decoder of names in their CBOR form. -/
def cborDecoder : Decoder (Except DecodeError) :=
  ⟨ofCbor, ofCbor⟩

end ArtifactNames

end CertLifecycle
