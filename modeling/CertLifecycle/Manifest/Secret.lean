import CertLifecycle.Manifest.Meta
import CertLifecycle.Resource.Secret

/-!
The JSON form of secrets.
-/

namespace CertLifecycle.Secret

def fieldNames : List String :=
  ["metadata", "data"]

def toJson (secret : Secret) : Json :=
  .ofMembers [
    ("metadata", secret.metadata.toJson),
    ("data", Json.ofDictionary Json.ofBytes secret.data)]

/-- Reads a secret; the data need not be given. -/
def ofJson? (j : Json) : Option Secret := do
  let fields ← j.fields? fieldNames
  some {
    metadata := ← fields.required "metadata" ObjectMeta.ofJson?
    data := ← fields.withDefault "data" ∅ (Json.dictionary? Json.bytes?) }

end CertLifecycle.Secret
