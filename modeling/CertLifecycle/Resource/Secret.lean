import CertLifecycle.Resource.Meta

/-!
The stored secret that holds an issued certificate.
-/

namespace CertLifecycle

/-- A stored secret: bytes under names. -/
structure Secret where
  metadata : ObjectMeta
  data : Dictionary (List UInt8) := ∅
  deriving DecidableEq

instance : Resource Secret where
  kind := "Secret"
  metaOf := Secret.metadata

namespace Secret

/-- The name under which the certificate is kept. -/
def certificateKey : String :=
  "tls.crt"

/-- Sets the bytes under a name. -/
def withData (secret : Secret) (key : String) (bytes : List UInt8) : Secret :=
  { secret with data := secret.data.insert key bytes }

/-- The bytes of the certificate; none if the secret has no certificate. -/
def certificateBytes (secret : Secret) : List UInt8 :=
  (secret.data.get? certificateKey).getD []

end Secret

end CertLifecycle
