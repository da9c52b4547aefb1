import CertLifecycle.Resource.Request
import CertLifecycle.Resource.Secret

/-!
Objects of any kind, as a change of the store announces them.
-/

namespace CertLifecycle

/-- An object that changed. -/
inductive StoredObject where
  | secret (object : Secret)
  | certificate (object : Certificate)
  | request (object : CertificateRequest)
  /-- An object of a kind that is not modelled. -/
  | other (kind : String) (metadata : ObjectMeta)
  deriving DecidableEq

namespace StoredObject

def kind : StoredObject → String
  | .secret _ => Resource.kind Secret
  | .certificate _ => Resource.kind Certificate
  | .request _ => Resource.kind CertificateRequest
  | .other kind _ => kind

def metadata : StoredObject → ObjectMeta
  | .secret object => object.metadata
  | .certificate object => object.metadata
  | .request object => object.metadata
  | .other _ metadata => metadata

end StoredObject

end CertLifecycle
