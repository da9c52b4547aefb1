import CertLifecycle.Json.Basic
import CertLifecycle.Text.Digits

/-!
The compact text of a JSON value: no white space, short escapes where there are any, and the other
control characters by their code point.
-/

namespace CertLifecycle.Json

/-- The letter of a short escape. -/
def shortEscape? : Char → Option Char
  | '"' => some '"'
  | '\\' => some '\\'
  | '\x08' => some 'b'
  | '\x0c' => some 'f'
  | '\n' => some 'n'
  | '\r' => some 'r'
  | '\t' => some 't'
  | _ => none

/-- Four hexadecimal digits. -/
def fourDigits (n : Nat) : List Char :=
  [n / 0x1000 % 16, n / 0x100 % 16, n / 0x10 % 16, n % 16].map Nat.digitChar

/-- A character as it stands between the quotes. -/
def charText (c : Char) : List Char :=
  match shortEscape? c with
  | some letter => ['\\', letter]
  | none => if c.toNat < 0x20 then ['\\', 'u'] ++ fourDigits c.toNat else [c]

/-- One element of a string as it was written or could have been. -/
def Piece.text : Piece → List Char
  | .char c => charText c
  | .bareControl c => [c]
  | .surrogate code => ['\\', 'u'] ++ fourDigits code.toNat

/-- A string between its quotes. -/
def stringText (pieces : List Piece) : List Char :=
  '"' :: pieces.flatMap Piece.text ++ ['"']

/-- The digits of a whole number after its sign. -/
def integerText (negative : Bool) (magnitude : Nat) : List Char :=
  (if negative then ['-'] else []) ++ Text.natChars 10 magnitude

mutual

/-- The characters of a value's compact text. -/
def chars : Json → List Char
  | .null => ['n', 'u', 'l', 'l']
  | .bool true => ['t', 'r', 'u', 'e']
  | .bool false => ['f', 'a', 'l', 's', 'e']
  | .integer negative magnitude => integerText negative magnitude
  | .real literal => literal
  | .string pieces => stringText pieces
  | .array items => '[' :: itemsChars items ++ [']']
  | .object members => '\x7b' :: membersChars members ++ ['\x7d']

/-- The items of an array with commas between them. -/
def itemsChars : List Json → List Char
  | [] => []
  | [item] => item.chars
  | item :: rest => item.chars ++ ',' :: itemsChars rest

/-- The members of an object with commas between them. -/
def membersChars : List (List Piece × Json) → List Char
  | [] => []
  | [(name, value)] => stringText name ++ ':' :: value.chars
  | (name, value) :: rest => stringText name ++ ':' :: value.chars ++ ',' :: membersChars rest

end

/-- The compact text of a value. -/
def text (j : Json) : String :=
  String.ofList j.chars

end CertLifecycle.Json
