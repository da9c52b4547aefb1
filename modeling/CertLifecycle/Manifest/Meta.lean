import CertLifecycle.Json.Fields
import CertLifecycle.Resource.Meta

/-!
The JSON form of metadata and owner references.
-/

namespace CertLifecycle

open Json (Fields)

namespace OwnerReference

def fieldNames : List String :=
  ["apiVersion", "kind", "name", "uid", "controller"]

def toJson (owner : OwnerReference) : Json :=
  .ofMembers ([
    ("apiVersion", .ofString owner.apiVersion),
    ("kind", .ofString owner.kind),
    ("name", .ofString owner.name),
    ("uid", .ofString owner.uid)] ++ Json.optionalMember "controller" .bool owner.controller)

def ofJson? (j : Json) : Option OwnerReference := do
  let fields ← j.fields? fieldNames
  some {
    apiVersion := ← fields.required "apiVersion" Json.text?
    kind := ← fields.required "kind" Json.text?
    name := ← fields.required "name" Json.text?
    uid := ← fields.required "uid" Json.text?
    controller := ← fields.optional "controller" Json.bool? }

end OwnerReference

namespace ObjectMeta

def fieldNames : List String :=
  ["namespace", "name", "uid", "labels", "annotations", "ownerReferences"]

def toJson (m : ObjectMeta) : Json :=
  .ofMembers [
    ("namespace", .ofString m.scope),
    ("name", .ofString m.name),
    ("uid", .ofString m.uid),
    ("labels", Json.ofDictionary Json.ofString m.labels),
    ("annotations", Json.ofDictionary Json.ofString m.annotations),
    ("ownerReferences", .array (m.owners.map OwnerReference.toJson))]

/-- Reads metadata; only the name must be given. -/
def ofJson? (j : Json) : Option ObjectMeta := do
  let fields ← j.fields? fieldNames
  some {
    scope := ← fields.withDefault "namespace" "" Json.text?
    name := ← fields.required "name" Json.text?
    uid := ← fields.withDefault "uid" "" Json.text?
    labels := ← fields.withDefault "labels" ∅ (Json.dictionary? Json.text?)
    annotations := ← fields.withDefault "annotations" ∅ (Json.dictionary? Json.text?)
    owners := ← fields.withDefault "ownerReferences" [] (Json.list? OwnerReference.ofJson?) }

end ObjectMeta

end CertLifecycle
