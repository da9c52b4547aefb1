/-!
The fields of a certificate's declaration in which what was observed may differ, in the order in
which they are reported.
-/

namespace CertLifecycle

/-- A field of a declaration whose observed counterpart differs. -/
inductive Violation where
  | commonName
  | dnsNames
  | ipAddresses
  | uris
  | serialNumber
  | organizations
  | countries
  | localities
  | organizationalUnits
  | postalCodes
  | provinces
  | streetAddresses
  | isCa
  | usages
  | duration
  | issuer
  deriving DecidableEq

namespace Violation

/-- Every field in the order of reports. -/
def all : List Violation :=
  [.commonName, .dnsNames, .ipAddresses, .uris, .serialNumber, .organizations, .countries,
    .localities, .organizationalUnits, .postalCodes, .provinces, .streetAddresses, .isCa, .usages,
    .duration, .issuer]

/-- The path of the field in a declaration. -/
def path : Violation → String
  | .commonName => "spec.commonName"
  | .dnsNames => "spec.dnsNames"
  | .ipAddresses => "spec.ipAddresses"
  | .uris => "spec.uriSANs"
  | .serialNumber => "spec.subject.serialNumber"
  | .organizations => "spec.subject.organizations"
  | .countries => "spec.subject.countries"
  | .localities => "spec.subject.localities"
  | .organizationalUnits => "spec.subject.organizationalUnits"
  | .postalCodes => "spec.subject.postCodes"
  | .provinces => "spec.subject.provinces"
  | .streetAddresses => "spec.subject.streetAddresses"
  | .isCa => "spec.isCA"
  | .usages => "spec.usages"
  | .duration => "spec.duration"
  | .issuer => "spec.issuerRef"

end Violation

end CertLifecycle
