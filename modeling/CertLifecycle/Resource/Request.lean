import CertLifecycle.Resource.Certificate

/-!
One attempt to have a certificate signed.
-/

namespace CertLifecycle

/-- What a request asks for. -/
structure RequestSpec where
  /-- The encoded signing request. -/
  csr : List UInt8
  isCa : Bool := false
  usages : List KeyUsage := []
  duration : Option Duration := none
  issuer : IssuerRef
  deriving DecidableEq

/-- A request to sign a certificate. -/
structure CertificateRequest where
  metadata : ObjectMeta
  spec : RequestSpec
  deriving DecidableEq

instance : Resource CertificateRequest where
  kind := "CertificateRequest"
  metaOf := CertificateRequest.metadata

namespace CertificateRequest

/-- The annotation that says for which revision of its certificate a request was made. -/
def revisionKey : String :=
  "cert-manager.io/certificate-revision"

/-- The revision as annotated. -/
def revision? (request : CertificateRequest) : Option String :=
  request.metadata.annotations.get? revisionKey

end CertificateRequest

end CertLifecycle
