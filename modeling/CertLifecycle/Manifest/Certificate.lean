import CertLifecycle.Manifest.Meta
import CertLifecycle.Manifest.Terms

/-!
The JSON form of certificates.
-/

namespace CertLifecycle

namespace SubjectFields

def fieldNames : List String :=
  ["organizations", "countries", "organizationalUnits", "localities", "provinces",
    "streetAddresses", "postalCodes", "serialNumber"]

def toJson (subject : SubjectFields) : Json :=
  .ofMembers [
    ("organizations", .ofStrings subject.organizations),
    ("countries", .ofStrings subject.countries),
    ("organizationalUnits", .ofStrings subject.organizationalUnits),
    ("localities", .ofStrings subject.localities),
    ("provinces", .ofStrings subject.provinces),
    ("streetAddresses", .ofStrings subject.streetAddresses),
    ("postalCodes", .ofStrings subject.postalCodes),
    ("serialNumber", .ofString subject.serialNumber)]

/-- Reads a subject; a field that is not given is empty. -/
def ofJson? (j : Json) : Option SubjectFields := do
  let fields ← j.fields? fieldNames
  let texts := Json.list? Json.text?
  some {
    organizations := ← fields.withDefault "organizations" [] texts
    countries := ← fields.withDefault "countries" [] texts
    organizationalUnits := ← fields.withDefault "organizationalUnits" [] texts
    localities := ← fields.withDefault "localities" [] texts
    provinces := ← fields.withDefault "provinces" [] texts
    streetAddresses := ← fields.withDefault "streetAddresses" [] texts
    postalCodes := ← fields.withDefault "postalCodes" [] texts
    serialNumber := ← fields.withDefault "serialNumber" "" Json.text? }

end SubjectFields

namespace CertificateSpec

def fieldNames : List String :=
  ["commonName", "dnsNames", "ipAddresses", "uriSANs", "subject", "isCA", "usages", "duration",
    "secretName", "issuerRef"]

def toJson (spec : CertificateSpec) : Json :=
  .ofMembers ([
    ("commonName", .ofString spec.commonName),
    ("dnsNames", .ofStrings spec.dnsNames),
    ("ipAddresses", .ofStrings spec.ipAddresses),
    ("uriSANs", .ofStrings spec.uris)]
    ++ Json.optionalMember "subject" SubjectFields.toJson spec.subject
    ++ [("isCA", .bool spec.isCa), ("usages", .array (spec.usages.map KeyUsage.toJson))]
    ++ Json.optionalMember "duration" Duration.toJson spec.duration
    ++ [("secretName", .ofString spec.secretName), ("issuerRef", spec.issuer.toJson)])

/-- Reads a declaration; only the name of the secret and the issuer must be given. -/
def ofJson? (j : Json) : Option CertificateSpec := do
  let fields ← j.fields? fieldNames
  let texts := Json.list? Json.text?
  some {
    commonName := ← fields.withDefault "commonName" "" Json.text?
    dnsNames := ← fields.withDefault "dnsNames" [] texts
    ipAddresses := ← fields.withDefault "ipAddresses" [] texts
    uris := ← fields.withDefault "uriSANs" [] texts
    subject := ← fields.optional "subject" SubjectFields.ofJson?
    isCa := ← fields.withDefault "isCA" false Json.bool?
    usages := ← fields.withDefault "usages" [] (Json.list? KeyUsage.ofJson?)
    duration := ← fields.optional "duration" Duration.ofJson?
    secretName := ← fields.required "secretName" Json.text?
    issuer := ← fields.required "issuerRef" IssuerRef.ofJson? }

end CertificateSpec

namespace CertificateStatus

def fieldNames : List String :=
  ["nextPrivateKeySecretName"]

def toJson (status : CertificateStatus) : Json :=
  .ofMembers (Json.optionalMember "nextPrivateKeySecretName" Json.ofString status.nextSecretName)

def ofJson? (j : Json) : Option CertificateStatus := do
  let fields ← j.fields? fieldNames
  some { nextSecretName := ← fields.optional "nextPrivateKeySecretName" Json.text? }

end CertificateStatus

namespace Certificate

def fieldNames : List String :=
  ["metadata", "spec", "status"]

def toJson (certificate : Certificate) : Json :=
  .ofMembers [
    ("metadata", certificate.metadata.toJson),
    ("spec", certificate.spec.toJson),
    ("status", certificate.status.toJson)]

/-- Reads a certificate; the status need not be given. -/
def ofJson? (j : Json) : Option Certificate := do
  let fields ← j.fields? fieldNames
  some {
    metadata := ← fields.required "metadata" ObjectMeta.ofJson?
    spec := ← fields.required "spec" CertificateSpec.ofJson?
    status := ← fields.withDefault "status" {} CertificateStatus.ofJson? }

end Certificate

end CertLifecycle
