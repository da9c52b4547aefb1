import CertLifecycle.Json.Fields
import CertLifecycle.Resource.Names

/-!
The JSON form of decoded names.
-/

namespace CertLifecycle

namespace Ip.Address

/-- The JSON form of an address: its text. -/
def toJson (ip : Address) : Json :=
  .ofString ip.text

def ofJson? (j : Json) : Option Address := do
  parse? (← j.text?)

end Ip.Address

namespace Uri

/-- The JSON form of a URI: its text. -/
def toJson (uri : Uri) : Json :=
  .ofString uri.text

def ofJson? [Idna] (j : Json) : Option Uri := do
  parse? (← j.text?)

end Uri

namespace DistinguishedName

def fieldNames : List String :=
  ["common_name", "serial_number", "organization", "country", "organizational_unit", "locality",
    "province", "street_address", "postal_code"]

def toJson (name : DistinguishedName) : Json :=
  .ofMembers [
    ("common_name", .ofString name.commonName),
    ("serial_number", .ofString name.serialNumber),
    ("organization", .ofStrings name.organization),
    ("country", .ofStrings name.country),
    ("organizational_unit", .ofStrings name.organizationalUnit),
    ("locality", .ofStrings name.locality),
    ("province", .ofStrings name.province),
    ("street_address", .ofStrings name.streetAddress),
    ("postal_code", .ofStrings name.postalCode)]

/-- Reads a distinguished name; a field that is not given is empty. -/
def ofJson? (j : Json) : Option DistinguishedName := do
  let fields ← j.fields? fieldNames
  let texts := Json.list? Json.text?
  some {
    commonName := ← fields.withDefault "common_name" "" Json.text?
    serialNumber := ← fields.withDefault "serial_number" "" Json.text?
    organization := ← fields.withDefault "organization" [] texts
    country := ← fields.withDefault "country" [] texts
    organizationalUnit := ← fields.withDefault "organizational_unit" [] texts
    locality := ← fields.withDefault "locality" [] texts
    province := ← fields.withDefault "province" [] texts
    streetAddress := ← fields.withDefault "street_address" [] texts
    postalCode := ← fields.withDefault "postal_code" [] texts }

end DistinguishedName

namespace ArtifactNames

def fieldNames : List String :=
  ["subject", "dns_names", "ip_addresses", "uris"]

def toJson (names : ArtifactNames) : Json :=
  .ofMembers [
    ("subject", names.subject.toJson),
    ("dns_names", .ofStrings names.dnsNames),
    ("ip_addresses", .array (names.ipAddresses.map Ip.Address.toJson)),
    ("uris", .array (names.uris.map Uri.toJson))]

/-- Reads decoded names; a field that is not given is empty. -/
def ofJson? [Uri.Idna] (j : Json) : Option ArtifactNames := do
  let fields ← j.fields? fieldNames
  some {
    subject := ← fields.withDefault "subject" {} DistinguishedName.ofJson?
    dnsNames := ← fields.withDefault "dns_names" [] (Json.list? Json.text?)
    ipAddresses := ← fields.withDefault "ip_addresses" [] (Json.list? Ip.Address.ofJson?)
    uris := ← fields.withDefault "uris" [] (Json.list? Uri.ofJson?) }

end ArtifactNames

end CertLifecycle
