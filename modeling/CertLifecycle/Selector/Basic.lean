import CertLifecycle.Collection.Dictionary
import CertLifecycle.Text.Split

/-!
Label selectors: requirements that the labels of an object must all meet, and their text.
-/

namespace CertLifecycle

/-- One requirement on labels. -/
inductive Requirement where
  | equals (key value : String)
  | notEquals (key value : String)
  | isPresent (key : String)
  | isAbsent (key : String)
  deriving DecidableEq

namespace Requirement

/-- The label that the requirement is about. -/
def key : Requirement → String
  | .equals key _ => key
  | .notEquals key _ => key
  | .isPresent key => key
  | .isAbsent key => key

/-- The value that the label is compared with. -/
def value? : Requirement → Option String
  | .equals _ value => some value
  | .notEquals _ value => some value
  | _ => none

/-- Whether labels meet the requirement. A missing label differs from every value. -/
def isMetBy (labels : Dictionary String) : Requirement → Bool
  | .equals key value => labels.get? key == some value
  | .notEquals key value => labels.get? key != some value
  | .isPresent key => labels.contains key
  | .isAbsent key => !labels.contains key

def text : Requirement → String
  | .equals key value => key ++ "=" ++ value
  | .notEquals key value => key ++ "!=" ++ value
  | .isPresent key => key
  | .isAbsent key => "!" ++ key

end Requirement

/-- A selector of objects by their labels; without requirements it selects every object. -/
structure LabelSelector where
  requirements : List Requirement
  deriving DecidableEq

namespace LabelSelector

/-- The selector of every object. -/
def everything : LabelSelector :=
  ⟨[]⟩

/-- Whether there is no requirement. -/
def isEverything (selector : LabelSelector) : Bool :=
  selector.requirements.isEmpty

/-- Adds the requirement that a label has a value. -/
def withEquals (selector : LabelSelector) (key value : String) : LabelSelector :=
  ⟨selector.requirements ++ [.equals key value]⟩

/-- Whether labels meet every requirement. -/
def selects (selector : LabelSelector) (labels : Dictionary String) : Bool :=
  selector.requirements.all (·.isMetBy labels)

/-- The text of a selector: its requirements with commas between them. -/
def text (selector : LabelSelector) : String :=
  String.ofList (Text.join [','] (selector.requirements.map fun r => r.text.toList))

end LabelSelector

end CertLifecycle
