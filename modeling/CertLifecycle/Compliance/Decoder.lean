import CertLifecycle.Resource.Names

/-!
Turning the bytes of an artifact into the names it carries. How that is done is left open: a decoder
is any pair of functions, with whatever effects a caller wants to see.
-/

namespace CertLifecycle

/-- Why an artifact has no names. -/
inductive DecodeError where
  | empty
  | malformed (reason : String)
  deriving DecidableEq

namespace DecodeError

def message : DecodeError → String
  | .empty => "no data to decode"
  | .malformed reason => "malformed artifact: " ++ reason

end DecodeError

/-- A way to decode signing requests and certificates. -/
structure Decoder (m : Type → Type) where
  request : List UInt8 → m ArtifactNames
  certificate : List UInt8 → m ArtifactNames

end CertLifecycle
