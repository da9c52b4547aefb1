import CertLifecycle.Manifest.Meta
import CertLifecycle.Manifest.Terms
import CertLifecycle.Resource.Request

/-!
The JSON form of requests.
-/

namespace CertLifecycle

namespace RequestSpec

def fieldNames : List String :=
  ["request", "isCA", "usages", "duration", "issuerRef"]

def toJson (spec : RequestSpec) : Json :=
  .ofMembers ([
    ("request", .ofBytes spec.csr),
    ("isCA", .bool spec.isCa),
    ("usages", .array (spec.usages.map KeyUsage.toJson))]
    ++ Json.optionalMember "duration" Duration.toJson spec.duration
    ++ [("issuerRef", spec.issuer.toJson)])

/-- Reads what a request asks for; only the signing request and the issuer must be given. -/
def ofJson? (j : Json) : Option RequestSpec := do
  let fields ← j.fields? fieldNames
  some {
    csr := ← fields.required "request" Json.bytes?
    isCa := ← fields.withDefault "isCA" false Json.bool?
    usages := ← fields.withDefault "usages" [] (Json.list? KeyUsage.ofJson?)
    duration := ← fields.optional "duration" Duration.ofJson?
    issuer := ← fields.required "issuerRef" IssuerRef.ofJson? }

end RequestSpec

namespace CertificateRequest

def fieldNames : List String :=
  ["metadata", "spec"]

def toJson (request : CertificateRequest) : Json :=
  .ofMembers [("metadata", request.metadata.toJson), ("spec", request.spec.toJson)]

def ofJson? (j : Json) : Option CertificateRequest := do
  let fields ← j.fields? fieldNames
  some {
    metadata := ← fields.required "metadata" ObjectMeta.ofJson?
    spec := ← fields.required "spec" RequestSpec.ofJson? }

end CertificateRequest

end CertLifecycle
