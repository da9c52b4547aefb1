import CertLifecycle.Resource.Meta
import CertLifecycle.Text.Quoted

/-!
The keys under which objects wait to be looked at again: namespace and name with a slash between
them, or the name alone for an object of the whole cluster.
-/

namespace CertLifecycle

/-- Why an object has no key. -/
inductive KeyError where
  | missingName (kind scope : String)
  deriving DecidableEq

namespace KeyError

def message : KeyError → String
  | .missingName kind scope => kind ++ " in namespace " ++ Text.quote scope ++ " has no name"

end KeyError

/-- The key of an object. -/
structure Key where
  text : String
  deriving DecidableEq, Hashable

namespace Key

/-- The key of the object of a kind with a namespace and a name; the name must not be empty. -/
def make (kind scope name : String) : Except KeyError Key :=
  if name.isEmpty then .error (.missingName kind scope)
  else if scope.isEmpty then .ok ⟨name⟩
  else .ok ⟨scope ++ "/" ++ name⟩

/-- The key of an object. -/
def ofObject {ρ : Type} [Resource ρ] (object : ρ) : Except KeyError Key :=
  make (Resource.kind ρ) (Resource.metaOf object).scope (Resource.metaOf object).name

/-- Keys in the byte order of their texts. -/
def sort (keys : List Key) : List Key :=
  keys.mergeSort fun a b => a.text ≤ b.text

end Key

end CertLifecycle
