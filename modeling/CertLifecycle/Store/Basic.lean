import CertLifecycle.Store.Lister

/-!
A store in memory. Objects are known by namespace and name and are listed in the order in which they
came. While the store is out of service every read fails, but writes still count.
-/

namespace CertLifecycle

namespace Resource

variable {ρ : Type} [Resource ρ]

/-- Whether an object has a namespace and a name. -/
def isAt (scope name : String) (object : ρ) : Bool :=
  (metaOf object).scope == scope && (metaOf object).name == name

/-- Whether an object lies in a namespace; the empty one stands for all of them. -/
def liesIn (scope : String) (object : ρ) : Bool :=
  scope.isEmpty || (metaOf object).scope == scope

end Resource

/-- A store: its objects in order, and the reason while it is out of service. -/
structure Store (ρ : Type) where
  objects : List ρ := []
  outage : Option String := none

namespace Store

variable {ρ : Type} [Resource ρ]

/-- Puts an object in the place of the one with the same namespace and name, or at the end. -/
def place (object : ρ) : List ρ → List ρ
  | [] => [object]
  | first :: rest =>
    if Resource.isAt (Resource.metaOf object).scope (Resource.metaOf object).name first then
      object :: rest
    else first :: place object rest

def insert (store : Store ρ) (object : ρ) : Store ρ :=
  { store with objects := place object store.objects }

/-- The store of these objects, inserted in order. -/
def ofList (objects : List ρ) : Store ρ :=
  objects.foldl insert {}

/-- Removes the object with a namespace and a name, and gives it back if there was one. -/
def remove (store : Store ρ) (scope name : String) : Option ρ × Store ρ :=
  (store.objects.find? (Resource.isAt scope name),
    { store with objects := store.objects.eraseP (Resource.isAt scope name) })

omit [Resource ρ] in
/-- Puts the store out of service for a reason, or back into service. -/
def setOutage (store : Store ρ) (reason : Option String) : Store ρ :=
  { store with outage := reason }

omit [Resource ρ] in
def size (store : Store ρ) : Nat :=
  store.objects.length

omit [Resource ρ] in
def isEmpty (store : Store ρ) : Bool :=
  store.size == 0

omit [Resource ρ] in
/-- Fails while the store is out of service. -/
def checkService (store : Store ρ) : Except StoreError Unit :=
  match store.outage with
  | some reason => .error (.unavailable reason)
  | none => .ok ()

/-- The objects of a namespace that a selector selects, in order. -/
def list (store : Store ρ) (scope : String) (selector : LabelSelector) :
    Except StoreError (List ρ) := do
  store.checkService
  return (store.objects.filter (Resource.liesIn scope)).filter fun object =>
    selector.selects (Resource.metaOf object).labels

/-- The object with a namespace and a name. -/
def get (store : Store ρ) (scope name : String) : Except StoreError ρ := do
  store.checkService
  match store.objects.find? (Resource.isAt scope name) with
  | some object => return object
  | none => throw (.notFound (Resource.kind ρ) scope name)

/-- Read access to the store. -/
def lister (store : Store ρ) : Lister ρ :=
  ⟨store.list, store.get⟩

end Store

end CertLifecycle
