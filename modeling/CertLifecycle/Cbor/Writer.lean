import CertLifecycle.Cbor.Head

/-!
Writing CBOR: texts, arrays and maps with their lengths, and heads as short as can be.
-/

namespace CertLifecycle.Cbor

def ofNat (n : Nat) : List UInt8 :=
  headBytes 0 n

def ofText (s : String) : List UInt8 :=
  let bytes := Text.utf8 s
  headBytes 3 bytes.length ++ bytes

/-- An array of items, each written in the same way. -/
def ofList {α : Type} (write : α → List UInt8) (items : List α) : List UInt8 :=
  headBytes 4 items.length ++ items.flatMap write

/-- A map from texts to items that are written already. -/
def ofFields (fields : List (String × List UInt8)) : List UInt8 :=
  headBytes 5 fields.length ++ fields.flatMap fun (name, value) => ofText name ++ value

end CertLifecycle.Cbor
