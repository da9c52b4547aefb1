import CertLifecycle.Text.Bytes

/-!
JSON values as they are written. A string keeps what its characters were written as, because the
same string can be acceptable as bytes and not as text: a control character that stands bare, and a
surrogate escape without its partner, belong in no text. Objects keep every member in order, so a
reader can see a name that is given twice.
-/

namespace CertLifecycle

namespace Json

/-- One element of a string. -/
inductive Piece where
  /-- A character, bare or escaped. -/
  | char (c : Char)
  /-- A control character that was not escaped. -/
  | bareControl (c : Char)
  /-- A surrogate escape without a partner. -/
  | surrogate (code : UInt16)
  deriving DecidableEq

namespace Piece

/-- The character, where a text may hold it. -/
def char? : Piece → Option Char
  | .char c => some c
  | _ => none

/-- The bytes that a byte string holds for this element. -/
def bytes : Piece → List UInt8
  | .char c => String.utf8EncodeChar c
  | .bareControl c => String.utf8EncodeChar c
  | .surrogate code => Text.surrogateBytes code

/-- Whether the element may stand in a string that nobody reads. -/
def isWellFormed : Piece → Bool
  | .bareControl _ => false
  | _ => true

end Piece

end Json

/-- A JSON value. -/
inductive Json where
  | null
  | bool (value : Bool)
  /-- A number without fraction and exponent. -/
  | integer (negative : Bool) (magnitude : Nat)
  /-- A number with a fraction or an exponent, as written. -/
  | real (literal : List Char)
  | string (pieces : List Json.Piece)
  | array (items : List Json)
  | object (members : List (List Json.Piece × Json))

namespace Json

/-- The string value of a text. -/
def ofString (s : String) : Json :=
  .string (s.toList.map .char)

/-- The number value of a natural number. -/
def ofNat (n : Nat) : Json :=
  .integer false n

/-- An array of bytes as numbers. -/
def ofBytes (bytes : List UInt8) : Json :=
  .array (bytes.map fun byte => ofNat byte.toNat)

/-- An array of texts. -/
def ofStrings (texts : List String) : Json :=
  .array (texts.map ofString)

/-- An object with these members. -/
def ofMembers (members : List (String × Json)) : Json :=
  .object (members.map fun (name, value) => (name.toList.map .char, value))

/-- The text of a string element by element, if each belongs in a text. -/
def piecesText? (pieces : List Piece) : Option String :=
  (pieces.mapM Piece.char?).map String.ofList

mutual

/-- Whether no string in the value holds a bare control character. -/
def isWellFormed : Json → Bool
  | .string pieces => pieces.all Piece.isWellFormed
  | .array items => areWellFormed items
  | .object members => membersWellFormed members
  | _ => true

/-- Whether the values of a list are all well formed. -/
def areWellFormed : List Json → Bool
  | [] => true
  | item :: rest => item.isWellFormed && areWellFormed rest

/-- Whether names and values of an object are all well formed. -/
def membersWellFormed : List (List Piece × Json) → Bool
  | [] => true
  | (name, value) :: rest =>
    name.all Piece.isWellFormed && value.isWellFormed && membersWellFormed rest

end

end Json

end CertLifecycle
