import CertLifecycle.Ip.Address
import CertLifecycle.Uri.Parser

/-!
The names that a signing request or a certificate carries once it is decoded.
-/

namespace CertLifecycle

/-- The subject of a decoded artifact. -/
structure DistinguishedName where
  commonName : String := ""
  serialNumber : String := ""
  organization : List String := []
  country : List String := []
  organizationalUnit : List String := []
  locality : List String := []
  province : List String := []
  streetAddress : List String := []
  postalCode : List String := []
  deriving DecidableEq

/-- The names of a decoded artifact. -/
structure ArtifactNames where
  subject : DistinguishedName := {}
  dnsNames : List String := []
  ipAddresses : List Ip.Address := []
  uris : List Uri := []
  deriving DecidableEq

namespace ArtifactNames

/-- The addresses in canonical form. -/
def ipTexts (names : ArtifactNames) : List String :=
  names.ipAddresses.map Ip.Address.canonicalText

/-- The texts of the URIs. -/
def uriTexts (names : ArtifactNames) : List String :=
  names.uris.map Uri.text

end ArtifactNames

end CertLifecycle
