import CertLifecycle.Collection.Dictionary
import CertLifecycle.Json.Basic

/-!
Reading JSON values as data. A record is an object, whose unknown members are passed over, or an
array of the fields in their order. A known field may be given once only. The readers below refuse
every value of another shape; null is accepted for optional fields alone.
-/

namespace CertLifecycle.Json

def text? : Json → Option String
  | .string pieces => piecesText? pieces
  | _ => none

def bool? : Json → Option Bool
  | .bool value => some value
  | _ => none

/-- A whole number below a limit, without a sign. -/
def below? (limit : Nat) : Json → Option Nat
  | .integer false magnitude => if magnitude < limit then some magnitude else none
  | _ => none

/-- The items of an array, each read in the same way. -/
def list? {α : Type} (read : Json → Option α) : Json → Option (List α)
  | .array items => items.mapM read
  | _ => none

/-- Bytes: an array of numbers, or the bytes of a string. -/
def bytes? : Json → Option (List UInt8)
  | .array items => items.mapM fun item => (item.below? 256).map UInt8.ofNat
  | .string pieces => some (pieces.flatMap Piece.bytes)
  | _ => none

/-- One of several names: as a text, or as an object whose one member has that name and is null. -/
def choice? {α : Type} (ofName? : String → Option α) : Json → Option α
  | .string pieces => do ofName? (← piecesText? pieces)
  | .object [(name, .null)] => do ofName? (← piecesText? name)
  | _ => none

/-- A member with its name as a text. -/
def namedMember? (member : List Piece × Json) : Option (String × Json) :=
  (piecesText? member.1).map fun name => (name, member.2)

/-- A dictionary; of members with the same name the last counts. -/
def dictionary? {α : Type} (read : Json → Option α) : Json → Option (Dictionary α)
  | .object members => do
    let entries ← members.mapM fun member => do
      let (name, value) ← namedMember? member
      some (name, ← read value)
    some (Dictionary.ofList entries)
  | _ => none

/-- The given fields of a record by name. -/
abbrev Fields := List (String × Json)

/-- The fields of a record with these names. -/
def fields? (names : List String) : Json → Option Fields
  | .array items => if items.length ≤ names.length then some (names.zip items) else none
  | .object members => do
    let named ← members.mapM namedMember?
    let (known, unknown) := named.partition fun member => names.contains member.1
    -- Unknown members may repeat, but even what nobody reads must be well formed.
    if (known.map Prod.fst).Nodup ∧ unknown.all fun member => member.2.isWellFormed then some known
    else none
  | _ => none

/-- The fields of a record that may have no others. -/
def closedFields? (names : List String) (j : Json) : Option Fields := do
  let fields ← fields? names j
  match j with
  | .object members => if members.length = fields.length then some fields else none
  | _ => some fields

namespace Fields

variable {α : Type}

/-- A field that must be given. -/
def required (fields : Fields) (name : String) (read : Json → Option α) : Option α := do
  read (← fields.lookup name)

/-- A field with a value of its own when it is not given. -/
def withDefault (fields : Fields) (name : String) (default : α) (read : Json → Option α) :
    Option α :=
  match fields.lookup name with
  | none => some default
  | some value => read value

/-- A field that may be missing or null. -/
def optional (fields : Fields) (name : String) (read : Json → Option α) : Option (Option α) :=
  match fields.lookup name with
  | none => some none
  | some .null => some none
  | some value => (read value).map some

end Fields

/-- The member of an optional field: none when the field is not set. -/
def optionalMember {α : Type} (name : String) (write : α → Json) (value : Option α) : Fields :=
  (value.map fun value => (name, write value)).toList

/-- A dictionary as an object. -/
def ofDictionary {α : Type} (write : α → Json) (d : Dictionary α) : Json :=
  ofMembers (d.toList.map fun (key, value) => (key, write value))

end CertLifecycle.Json
