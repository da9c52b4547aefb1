import CertLifecycle.Resource.Meta
import CertLifecycle.Store.Error

/-!
Read access to a collection of objects.
-/

namespace CertLifecycle

/-- A source of objects. Callers may not count on any order. -/
structure Lister (ρ : Type) where
  /-- The objects of a namespace whose labels a selector selects; the empty namespace stands for all
  of them. -/
  list : String → LabelSelector → Except StoreError (List ρ)
  /-- The object with a namespace and a name. -/
  get : String → String → Except StoreError ρ

end CertLifecycle
