import CertLifecycle.Cbor.Head

/-!
Reading CBOR as data of a known shape. Tags before an item are passed over. Arrays, maps and texts
may be of open length. A map is read as a record: its keys are texts or byte strings, a known field
may occur once, and the value of an unknown field is skipped, whatever it is, as long as it is well
formed and does not nest too deeply.
-/

namespace CertLifecycle.Cbor

/-- Reads from the front of the bytes that are left. -/
abbrev Reader := StateT (List UInt8) Option

namespace Reader

variable {α : Type}

def head : Reader Head :=
  fun bytes => head? bytes

def take (count : Nat) : Reader (List UInt8) :=
  fun bytes => takeBytes? count bytes

/-- Passes over tags, at most one for each byte of a bound, and reads the head after them. -/
def headWithin : List UInt8 → Reader Head
  | [] => failure
  | _ :: bound => do
    match ← head with
    | .tag _ => headWithin bound
    | other => return other

/-- Passes over tags and reads the head after them. -/
def untaggedHead : Reader Head := do
  headWithin (← get)

/-- Reads the chunks of an open text or byte string up to its stop. Open strings may nest inside;
`depth` of them are open around this place. -/
def chunksWithin (lengthOf : Head → Option (Option Nat)) :
    (bound : List UInt8) → (depth : Nat) → Reader (List (List UInt8))
  | [], _ => failure
  | _ :: bound, depth => do
    match ← head with
    | .stop =>
      match depth with
      | 0 => return []
      | depth + 1 => chunksWithin lengthOf bound depth
    | other =>
      match lengthOf other with
      | none => failure
      | some none => chunksWithin lengthOf bound (depth + 1)
      | some (some length) => do
        let chunk ← take length
        return chunk :: (← chunksWithin lengthOf bound depth)

/-- Reads the chunks of a text or byte string after its head. -/
def chunks (lengthOf : Head → Option (Option Nat)) : Option Nat → Reader (List (List UInt8))
  | some length => do return [← take length]
  | none => do chunksWithin lengthOf (← get) 0

/-- The length of a byte string. -/
def bytesLength : Head → Option (Option Nat)
  | .bytes length => some length
  | _ => none

/-- The length of a text. -/
def textLength : Head → Option (Option Nat)
  | .text length => some length
  | _ => none

/-- Reads the bytes of a byte string after its head. -/
def bytesAfter (length : Option Nat) : Reader (List UInt8) := do
  return (← chunks bytesLength length).flatten

/-- Reads a text after its head. Each chunk must be valid by itself. -/
def textAfter (length : Option Nat) : Reader String := do
  let parts ← (← chunks textLength length).mapM fun chunk => (Text.ofUtf8? chunk : Option String)
  return String.join parts

def text : Reader String := do
  match ← untaggedHead with
  | .text length => textAfter length
  | _ => failure

/-- The longest text or key that is read in one piece. -/
def shortLimit : Nat := 4096

/-- Reads a text of known length that is not too long. -/
def shortText : Reader String := do
  match ← untaggedHead with
  | .text (some length) =>
    if length ≤ shortLimit then textAfter (some length) else failure
  | _ => failure

/-- Reads a key: a text or byte string of known length that is not too long. A byte string that is
no text is the key of no field. -/
def key : Reader (Option String) := do
  match ← untaggedHead with
  | .text (some length) =>
    if length ≤ shortLimit then return some (← textAfter (some length)) else failure
  | .bytes (some length) =>
    if length ≤ shortLimit then return Text.ofUtf8? (← take length) else failure
  | _ => failure

/-- Reads the magnitude of a number that is written as a byte string: at most sixteen bytes after
leading zeros. -/
def bigNumber : Reader Nat := do
  match ← head with
  | .bytes length => do
    let digits := (← bytesAfter length).dropWhile (· == 0)
    if digits.length ≤ 16 then return ofBigEndian digits else failure
  | _ => failure

/-- Reads a whole number, passing over at most one tag for each byte of a bound; none stands for a
negative number. -/
def numberWithin : List UInt8 → Reader (Option Nat)
  | [] => failure
  | _ :: bound => do
    match ← head with
    | .unsigned value => return some value
    | .negative _ => return none
    | .tag 2 => return some (← bigNumber)
    | .tag 3 => do
      let _ ← bigNumber
      return none
    | .tag _ => numberWithin bound
    | _ => failure

/-- Reads a whole number; none stands for a negative one. -/
def number : Reader (Option Nat) := do
  numberWithin (← get)

def byte : Reader UInt8 := do
  match ← number with
  | some value => if value < 256 then return UInt8.ofNat value else failure
  | none => failure

def times (read : Reader α) : Nat → Reader (List α)
  | 0 => return []
  | count + 1 => do
    let item ← read
    return item :: (← times read count)

/-- Whether a stop is next; it is taken then. -/
def atStop : Reader Bool := do
  let bytes ← get
  match head? bytes with
  | some (.stop, rest) => do
    set rest
    return true
  | some _ => return false
  | none => failure

/-- Reads items up to a stop, at most one for each byte of a bound. -/
def untilStop (read : Reader α) : List UInt8 → Reader (List α)
  | [] => failure
  | _ :: bound => do
    if ← atStop then return []
    let item ← read
    return item :: (← untilStop read bound)

/-- Reads the items of an array or map after its head. -/
def items (read : Reader α) : Option Nat → Reader (List α)
  | some count => times read count
  | none => do untilStop read (← get)

/-- Reads an array. A byte string is taken for an array of its bytes, which are no items of any
other kind, so it must be empty. -/
def list (read : Reader α) : Reader (List α) := do
  match ← untaggedHead with
  | .array length => items read length
  | .bytes length => do
    if (← bytesAfter length).isEmpty then return [] else failure
  | _ => failure

/-- Whether a tag makes a number of what is next: a byte string of known length and at most sixteen
bytes. -/
def atTaggedNumber (tag : Nat) : Reader Bool := do
  match head? (← get) with
  | some (.bytes (some length), _) => return (tag == 2 || tag == 3) && length ≤ 16
  | _ => return false

/-- Skips the byte string of a tagged number. A negative number must fit into 128 bits with its
sign. -/
def skipTaggedNumber (tag : Nat) : Reader Unit := do
  let magnitude ← bigNumber
  if tag = 3 ∧ 1 <<< 127 ≤ magnitude then failure

/-- Skips an item of any kind. `room` says how deeply it may nest; a tag counts, unless it makes a
number of a short byte string. -/
def skip (room : Nat) : Reader Unit := do
  match ← head with
  | .unsigned _ => return
  | .negative _ => return
  | .float => return
  -- False, true, null and undefined.
  | .simple value => if 20 ≤ value ∧ value ≤ 23 then return else failure
  | .bytes length => do
    let _ ← bytesAfter length
  | .text length => do
    let _ ← textAfter length
  | .array length =>
    match room with
    | 0 => failure
    | room + 1 => do
      let _ ← items (skip room) length
  | .map length =>
    match room with
    | 0 => failure
    | room + 1 => do
      let _ ← items (do skip room; skip room) length
  | .tag tag => do
    if ← atTaggedNumber tag then skipTaggedNumber tag
    else
      match room with
      | 0 => failure
      | room + 1 => skip room
  | .stop => failure

/-- A record that is being read, and the names of the fields it already has. -/
structure Draft (α : Type) where
  value : α
  seen : List String

/-- Reads one entry of a record. -/
def entry (fields : List (String × Reader (α → α))) (room : Nat) (before : Draft α) :
    Reader (Draft α) := do
  let name ← key
  match name.bind fun name => (fields.lookup name).map fun read => (name, read) with
  | none => do
    skip room
    return before
  | some (name, read) =>
    -- A field that is given twice is refused before its value is read.
    if before.seen.contains name then failure
    else return ⟨(← read) before.value, name :: before.seen⟩

/-- Reads so many entries. -/
def entries (fields : List (String × Reader (α → α))) (room : Nat) :
    Nat → Draft α → Reader (Draft α)
  | 0, before => return before
  | count + 1, before => do entries fields room count (← entry fields room before)

/-- Reads entries up to a stop, at most one for each byte of a bound. -/
def entriesUntilStop (fields : List (String × Reader (α → α))) (room : Nat) :
    List UInt8 → Draft α → Reader (Draft α)
  | [], _ => failure
  | _ :: bound, before => do
    if ← atStop then return before
    entriesUntilStop fields room bound (← entry fields room before)

/-- Reads a record from a map, given how each field changes it. `room` says how deeply the values of
unknown fields may nest. -/
def record (fields : List (String × Reader (α → α))) (room : Nat) (start : α) : Reader α := do
  match ← untaggedHead with
  | .map (some count) => return (← entries fields room count ⟨start, []⟩).value
  | .map none => do
    return (← entriesUntilStop fields room (← get) ⟨start, []⟩).value
  | _ => failure

/-- Reads the octets of an address: so many numbers of an array, or the first bytes of a byte
string. What the array holds beyond them is left where it is. -/
def octets (count : Nat) : Reader (List UInt8) := do
  match ← untaggedHead with
  -- The rest of the array is not read, so it is taken for what follows the address.
  | .array (some length) => if count ≤ length then times byte count else failure
  | .array none => times byte count
  | .bytes length => do
    let bytes ← bytesAfter length
    if count ≤ bytes.length then return bytes.take count else failure
  | _ => failure

/-- Passes over tags, at most one for each byte of a bound, and over the head of a map with one
entry. The head of a text is left where it is. -/
def variantStart : List UInt8 → Reader Unit
  | [] => failure
  | _ :: bound => do
    let bytes ← get
    match ← head with
    | .tag _ => variantStart bound
    | .map (some 1) => return
    -- The name of a variant is read again, as a key.
    | .text _ => set bytes
    | _ => failure

/-- Reads one of several variants: its name and its content, as a map with one entry or one after
the other. -/
def variant (variants : List (String × Reader α)) : Reader α := do
  variantStart (← get)
  match (← key).bind (List.lookup · variants) with
  | some read => read
  | none => failure

end Reader

end CertLifecycle.Cbor
