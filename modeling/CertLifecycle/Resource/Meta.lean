import CertLifecycle.Collection.Dictionary

/-!
What every stored object carries: the namespace and name that identify it, labels, annotations, and
references to the objects that own it.
-/

namespace CertLifecycle

/-- A reference from an object to one that owns it. -/
structure OwnerReference where
  apiVersion : String
  kind : String
  name : String
  uid : String
  /-- Set to true on the one owner that manages the object. -/
  controller : Option Bool := none
  deriving DecidableEq

namespace OwnerReference

/-- Whether the owner manages the object. -/
def isController (owner : OwnerReference) : Bool :=
  owner.controller == some true

end OwnerReference

/-- The metadata of a stored object. -/
structure ObjectMeta where
  /-- The namespace; empty for an object of the whole cluster. -/
  scope : String := ""
  name : String
  uid : String := ""
  labels : Dictionary String := ∅
  annotations : Dictionary String := ∅
  owners : List OwnerReference := []
  deriving DecidableEq

namespace ObjectMeta

/-- The metadata of an object in a namespace, with nothing else set. -/
def named (scope name : String) : ObjectMeta :=
  { scope, name }

/-- Sets the unique identifier. -/
def withUid (m : ObjectMeta) (uid : String) : ObjectMeta :=
  { m with uid }

def withLabel (m : ObjectMeta) (key value : String) : ObjectMeta :=
  { m with labels := m.labels.insert key value }

def annotate (m : ObjectMeta) (key value : String) : ObjectMeta :=
  { m with annotations := m.annotations.insert key value }

/-- Adds an owner after the others. -/
def withOwner (m : ObjectMeta) (owner : OwnerReference) : ObjectMeta :=
  { m with owners := m.owners ++ [owner] }

/-- The first owner that manages the object. -/
def controller? (m : ObjectMeta) : Option OwnerReference :=
  m.owners.find? OwnerReference.isController

/-- Whether the owner with this identifier manages the object. Any later managing owner does not
count. -/
def isControlledBy (m : ObjectMeta) (uid : String) : Bool :=
  m.controller?.any (·.uid == uid)

/-- The reference by which this object manages another. -/
def controllerReference (m : ObjectMeta) (apiVersion kind : String) : OwnerReference :=
  { apiVersion, kind, name := m.name, uid := m.uid, controller := some true }

end ObjectMeta

/-- The objects of one kind, each with its metadata. -/
class Resource (ρ : Type) where
  /-- The name of the kind. -/
  kind : String
  metaOf : ρ → ObjectMeta

end CertLifecycle
