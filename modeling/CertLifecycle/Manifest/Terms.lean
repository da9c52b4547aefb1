import CertLifecycle.Json.Fields
import CertLifecycle.Resource.Certificate

/-!
The JSON form of the terms that certificates and requests share: usages, spans of time and the
issuer.
-/

namespace CertLifecycle

namespace KeyUsage

/-- The JSON form of a usage: its name. -/
def toJson (usage : KeyUsage) : Json :=
  .ofString usage.text

def ofJson? (j : Json) : Option KeyUsage :=
  j.choice? ofText?

end KeyUsage

namespace Duration

def fieldNames : List String :=
  ["secs", "nanos"]

def toJson (duration : Duration) : Json :=
  .ofMembers [("secs", .ofNat duration.secs.toNat), ("nanos", .ofNat duration.nanos)]

/-- Reads a span of time: seconds in 64 bits and nanoseconds in 32 bits, and nothing else. -/
def ofJson? (j : Json) : Option Duration := do
  let fields ← j.closedFields? fieldNames
  let secs ← fields.required "secs" (Json.below? UInt64.size)
  let nanos ← fields.required "nanos" (Json.below? UInt32.size)
  ofParts? secs nanos

end Duration

namespace IssuerRef

def fieldNames : List String :=
  ["name", "kind", "group"]

def toJson (issuer : IssuerRef) : Json :=
  .ofMembers [
    ("name", .ofString issuer.name),
    ("kind", .ofString issuer.kind),
    ("group", .ofString issuer.group)]

/-- Reads a reference to an issuer; only the name must be given. -/
def ofJson? (j : Json) : Option IssuerRef := do
  let fields ← j.fields? fieldNames
  some {
    name := ← fields.required "name" Json.text?
    kind := ← fields.withDefault "kind" "" Json.text?
    group := ← fields.withDefault "group" "" Json.text? }

end IssuerRef

end CertLifecycle
