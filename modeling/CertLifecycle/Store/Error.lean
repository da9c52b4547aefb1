import CertLifecycle.Selector.Parser

/-!
Why a store gives no answer.
-/

namespace CertLifecycle

/-- The failure of a read. -/
inductive StoreError where
  /-- There is no object of this kind under this namespace and name. -/
  | notFound (kind scope name : String)
  /-- The store is out of service. -/
  | unavailable (reason : String)
  /-- The text of a selector is bad. -/
  | selector (error : SelectorError)
  deriving DecidableEq

namespace StoreError

/-- Whether the store works but does not have the object. -/
def isNotFound : StoreError → Bool
  | .notFound .. => true
  | _ => false

def message : StoreError → String
  | .notFound kind scope name => kind ++ " " ++ scope ++ "/" ++ name ++ " not found"
  | .unavailable reason => "store unavailable: " ++ reason
  | .selector error => "invalid label selector: " ++ error.message

end StoreError

end CertLifecycle
