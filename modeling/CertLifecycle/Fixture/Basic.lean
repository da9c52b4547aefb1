import CertLifecycle.Cbor.Names
import CertLifecycle.Resource.Request
import CertLifecycle.Resource.Secret
import CertLifecycle.Store.Basic

/-!
Ready-made certificates, with requests and secrets as an issuance would leave them. Without other
names they comply with what the certificate declares, as far as that can be met.
-/

namespace CertLifecycle

/-- A certificate to build requests and secrets for. -/
structure Fixture where
  certificate : Certificate
  deriving DecidableEq

namespace Fixture

/-- The namespace of every fixture. -/
def defaultScope : String := "default"

/-- A certificate for example.com with a name and a secret. -/
def make (name secretName : String) : Fixture :=
  { certificate := {
      metadata := (ObjectMeta.named defaultScope name).withUid ("uid-" ++ name)
      spec := {
        commonName := "example.com"
        dnsNames := ["example.com", "www.example.com"]
        secretName
        issuer := { name := "ca-issuer", kind := "Issuer" } } } }

/-- Replaces the declaration. -/
def withSpec (fixture : Fixture) (spec : CertificateSpec) : Fixture :=
  { certificate := { fixture.certificate with spec } }

/-- Sets the secret with the private key of the next issuance. -/
def withNextSecret (fixture : Fixture) (name : String) : Fixture :=
  { certificate := { fixture.certificate with status := { nextSecretName := some name } } }

/-- The metadata of the request for a revision: named and annotated by it, and managed by the
certificate. -/
def requestMeta (fixture : Fixture) (revision : UInt32) : ObjectMeta :=
  let owner := fixture.certificate.metadata
  let number := Text.decimal revision.toNat
  ((ObjectMeta.named owner.scope (owner.name ++ "-" ++ number)).annotate
    CertificateRequest.revisionKey number).withOwner
      (owner.controllerReference "cert-manager.io/v1alpha2" "Certificate")

/-- The request for a revision, with these names. -/
def requestWith (fixture : Fixture) (revision : UInt32) (names : ArtifactNames) :
    CertificateRequest :=
  let spec := fixture.certificate.spec
  { metadata := fixture.requestMeta revision
    spec := {
      csr := names.toCbor
      isCa := spec.isCa
      usages := spec.usages
      duration := spec.duration
      issuer := spec.issuer } }

/-- The secret of the certificate, with these names. -/
def secretWith (fixture : Fixture) (names : ArtifactNames) : Secret :=
  let certificate := fixture.certificate
  ({ metadata := ObjectMeta.named certificate.metadata.scope certificate.spec.secretName } :
    Secret).withData Secret.certificateKey names.toCbor

end Fixture

namespace CertificateSpec

/-- The names that comply with a declaration, without the addresses and URIs that cannot be read. -/
def compliantNames [Uri.Idna] (spec : CertificateSpec) : ArtifactNames :=
  let subject := spec.subject.getD {}
  { subject := {
      commonName := spec.commonName
      serialNumber := subject.serialNumber
      organization := subject.organizations
      country := subject.countries
      organizationalUnit := subject.organizationalUnits
      locality := subject.localities
      province := subject.provinces
      streetAddress := subject.streetAddresses
      postalCode := subject.postalCodes }
    dnsNames := spec.dnsNames
    ipAddresses := spec.ipAddresses.filterMap Ip.Address.parse?
    uris := spec.uris.filterMap Uri.parse? }

end CertificateSpec

namespace Fixture

variable [Uri.Idna]

/-- The names that comply with the certificate. -/
def compliantNames (fixture : Fixture) : ArtifactNames :=
  fixture.certificate.spec.compliantNames

/-- The request for a revision that complies with the certificate. -/
def compliantRequest (fixture : Fixture) (revision : UInt32) : CertificateRequest :=
  fixture.requestWith revision fixture.compliantNames

/-- The secret that complies with the certificate. -/
def compliantSecret (fixture : Fixture) : Secret :=
  fixture.secretWith fixture.compliantNames

/-- A secret without a certificate. -/
def emptySecret (scope name : String) : Secret :=
  { metadata := ObjectMeta.named scope name }

/-- A secret whose certificate cannot be decoded. -/
def corruptSecret (scope name : String) : Secret :=
  (emptySecret scope name).withData Secret.certificateKey (Text.utf8 "not a certificate")

/-- A store of the certificates of fixtures, in order. -/
def store (fixtures : List Fixture) : Store Certificate :=
  Store.ofList (fixtures.map Fixture.certificate)

end Fixture

end CertLifecycle
