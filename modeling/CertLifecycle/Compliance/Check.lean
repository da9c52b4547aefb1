import CertLifecycle.Collection.Distinct
import CertLifecycle.Compliance.Decoder
import CertLifecycle.Compliance.Violation
import CertLifecycle.Resource.Request
import CertLifecycle.Resource.Secret

/-!
Whether an observed artifact still satisfies a declaration. Both checks decode the artifact first
and then report the fields that differ, in a fixed order. Lists are compared as sets; addresses and
URIs are compared by their normal texts.
-/

namespace CertLifecycle

open Collection (sameElements)

namespace Violation

/-- Reports a field unless it agrees. -/
def reportUnless (agrees : Bool) (field : Violation) : List Violation :=
  if agrees then [] else [field]

end Violation

namespace CertificateSpec

open Violation (reportUnless)

/-- The common name and alternative names that differ. -/
def nameViolations [Uri.Idna] (spec : CertificateSpec) (names : ArtifactNames) : List Violation :=
  reportUnless (names.subject.commonName == spec.commonName) .commonName
    ++ reportUnless (sameElements names.dnsNames spec.dnsNames) .dnsNames
    ++ reportUnless (sameElements names.ipTexts (spec.ipAddresses.map Ip.Address.normalize))
      .ipAddresses
    ++ reportUnless (sameElements names.uriTexts (spec.uris.map Uri.normalize)) .uris

/-- The subject fields that differ; a subject that is not declared is empty. -/
def subjectViolations (spec : CertificateSpec) (observed : DistinguishedName) : List Violation :=
  let subject := spec.subject.getD {}
  reportUnless (observed.serialNumber == subject.serialNumber) .serialNumber
    ++ reportUnless (sameElements observed.organization subject.organizations) .organizations
    ++ reportUnless (sameElements observed.country subject.countries) .countries
    ++ reportUnless (sameElements observed.locality subject.localities) .localities
    ++ reportUnless (sameElements observed.organizationalUnit subject.organizationalUnits)
      .organizationalUnits
    ++ reportUnless (sameElements observed.postalCode subject.postalCodes) .postalCodes
    ++ reportUnless (sameElements observed.province subject.provinces) .provinces
    ++ reportUnless (sameElements observed.streetAddress subject.streetAddresses) .streetAddresses

/-- Whether two spans of time agree; one that is not set agrees with any. -/
def durationsAgree : Option Duration → Option Duration → Bool
  | some declared, some requested => declared == requested
  | _, _ => true

/-- The terms of a request that differ. -/
def termViolations (spec : CertificateSpec) (requested : RequestSpec) : List Violation :=
  reportUnless (requested.isCa == spec.isCa) .isCa
    ++ reportUnless (sameElements requested.usages spec.usages) .usages
    ++ reportUnless (durationsAgree spec.duration requested.duration) .duration
    ++ reportUnless (spec.issuer.agrees requested.issuer) .issuer

variable {m : Type → Type} [Monad m] [Uri.Idna]

/-- The fields in which a request differs from the declaration: names and subject by the decoded
signing request, the terms by the request itself. -/
def requestViolations (spec : CertificateSpec) (decoder : Decoder m)
    (request : CertificateRequest) : m (List Violation) := do
  let names ← decoder.request request.spec.csr
  return spec.nameViolations names ++ spec.subjectViolations names.subject
    ++ spec.termViolations request.spec

/-- The names in which the certificate of a secret differs from the declaration. An issuer may
choose the other fields itself. -/
def secretViolations (spec : CertificateSpec) (decoder : Decoder m) (secret : Secret) :
    m (List Violation) := do
  let names ← decoder.certificate secret.certificateBytes
  return spec.nameViolations names

end CertificateSpec

end CertLifecycle
