import CertLifecycle.Resource.Request
import CertLifecycle.Text.Digits

/-!
The tests that predicates are made of: yes-or-no questions about one object. A field that is not set
is never equal to anything asked for.
-/

namespace CertLifecycle

/-- A question about an object. -/
abbrev Test (ρ : Type) := ρ → Bool

namespace Certificate

/-- Whether the signed certificate is kept in a secret. -/
def storesIn (secretName : String) : Test Certificate :=
  fun certificate => certificate.spec.secretName == secretName

/-- Whether the private key of the issuance under way is kept in a secret. -/
def nextKeyIn (secretName : String) : Test Certificate :=
  fun certificate => certificate.status.nextSecretName == some secretName

end Certificate

/-- Which secret of a certificate a changed secret is compared with. -/
inductive SecretRole where
  /-- The secret that the signed certificate is kept in. -/
  | issued
  /-- The secret with the private key of the next issuance. -/
  | nextKey
  deriving DecidableEq

namespace SecretRole

def text : SecretRole → String
  | .issued => "secret_name"
  | .nextKey => "next_private_key_secret_name"

/-- The role with a name. -/
def ofText? (s : String) : Option SecretRole :=
  [issued, nextKey].find? (·.text == s)

/-- Whether a certificate names a secret in this role. -/
def test (role : SecretRole) (secretName : String) : Test Certificate :=
  match role with
  | .issued => Certificate.storesIn secretName
  | .nextKey => Certificate.nextKeyIn secretName

end SecretRole

namespace CertificateRequest

/-- Whether a request was made for a revision: its annotation is the number in decimal. -/
def hasRevision (revision : UInt32) : Test CertificateRequest :=
  fun request => request.revision? == some (Text.decimal revision.toNat)

/-- Whether a request is managed by the owner with an identifier. -/
def isManagedBy (uid : String) : Test CertificateRequest :=
  fun request => request.metadata.isControlledBy uid

end CertificateRequest

end CertLifecycle
