import CertLifecycle.Selector.Basic
import CertLifecycle.Text.Blank
import CertLifecycle.Text.Quoted

/-!
Reading label selectors. The text is cut at commas, blank parts are passed over, and each other part
is one requirement. Which operator a part has is decided by the first mark that occurs anywhere in
it, in the order "!=", "==", "=", and then by a leading "!".
-/

namespace CertLifecycle

/-- What is wrong with a part of a selector. -/
inductive SelectorError where
  /-- A part whose key is blank. -/
  | emptyKey (part : String)
  /-- A key with a character that no key may hold. -/
  | invalidKey (key : String)
  /-- A value with a character that no value may hold. -/
  | invalidValue (value : String)
  deriving DecidableEq

namespace SelectorError

def message : SelectorError → String
  | .emptyKey part => "empty label key in requirement " ++ Text.quote part
  | .invalidKey key => "invalid character in label key " ++ Text.quote key
  | .invalidValue value => "invalid character in label value " ++ Text.quote value

end SelectorError

namespace Requirement

/-- Whether a value may hold a character: ASCII letters and digits, dash, underscore and dot. -/
def isValueChar (c : Char) : Bool :=
  c.isAlphanum || c == '-' || c == '_' || c == '.'

/-- Whether a key may hold a character: those of values, and the slash. -/
def isKeyChar (c : Char) : Bool :=
  isValueChar c || c == '/'

/-- A text without the white space around it. -/
def trimmed (cs : List Char) : String :=
  String.ofList (Text.trim cs)

/-- The requirement that a part makes, whatever characters its key and value hold. -/
def reading (part : List Char) : Requirement :=
  -- The mark "!=" is looked for first, since "=" would find its second character.
  match Text.cutAt? ['!', '='] part with
  | some (key, value) => .notEquals (trimmed key) (trimmed value)
  | none =>
    match (Text.cutAt? ['=', '='] part).or (Text.cutAt? ['='] part) with
    | some (key, value) => .equals (trimmed key) (trimmed value)
    | none =>
      match part with
      | '!' :: key => .isAbsent (trimmed key)
      | key => .isPresent (trimmed key)

/-- Checks the characters of a key and a value. -/
def check (part : List Char) (requirement : Requirement) : Except SelectorError Requirement :=
  if requirement.key.isEmpty then .error (.emptyKey (String.ofList part))
  else if !requirement.key.toList.all isKeyChar then .error (.invalidKey requirement.key)
  else
    match requirement.value? with
    | some value =>
      if value.toList.all isValueChar then .ok requirement else .error (.invalidValue value)
    | none => .ok requirement

/-- Reads one part of a selector, which has no white space around it. -/
def parse (part : List Char) : Except SelectorError Requirement :=
  check part (reading part)

end Requirement

namespace LabelSelector

/-- The parts of a selector's text that are not blank, without the white space around them. -/
def parts (cs : List Char) : List (List Char) :=
  ((Text.pieces ',' cs).map Text.trim).filter fun part => !part.isEmpty

/-- Reads a selector; the first bad part decides the error. -/
def parse (s : String) : Except SelectorError LabelSelector := do
  return ⟨← (parts s.toList).mapM Requirement.parse⟩

end LabelSelector

end CertLifecycle
