import CertLifecycle.Resource.Duration
import CertLifecycle.Resource.KeyUsage
import CertLifecycle.Resource.Meta

/-!
The declared state of a certificate.
-/

namespace CertLifecycle

/-- The issuer that should sign. -/
structure IssuerRef where
  name : String
  kind : String := ""
  group : String := ""
  deriving DecidableEq

namespace IssuerRef

/-- Whether two references agree in name, kind and group. -/
def agrees (a b : IssuerRef) : Bool :=
  a.name == b.name && a.kind == b.kind && a.group == b.group

end IssuerRef

/-- What the subject of a certificate should say beside its common name. -/
structure SubjectFields where
  organizations : List String := []
  countries : List String := []
  organizationalUnits : List String := []
  localities : List String := []
  provinces : List String := []
  streetAddresses : List String := []
  postalCodes : List String := []
  serialNumber : String := ""
  deriving DecidableEq

/-- What a certificate should be like. -/
structure CertificateSpec where
  commonName : String := ""
  dnsNames : List String := []
  ipAddresses : List String := []
  uris : List String := []
  subject : Option SubjectFields := none
  isCa : Bool := false
  usages : List KeyUsage := []
  duration : Option Duration := none
  /-- The secret that the signed certificate is kept in. -/
  secretName : String
  issuer : IssuerRef
  deriving DecidableEq

/-- What is known of a certificate. -/
structure CertificateStatus where
  /-- The secret with the private key of the issuance under way. -/
  nextSecretName : Option String := none
  deriving DecidableEq

/-- A certificate as it is declared. -/
structure Certificate where
  metadata : ObjectMeta
  spec : CertificateSpec
  status : CertificateStatus := {}
  deriving DecidableEq

instance : Resource Certificate where
  kind := "Certificate"
  metaOf := Certificate.metadata

end CertLifecycle
