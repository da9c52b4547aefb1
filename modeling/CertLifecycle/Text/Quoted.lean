import CertLifecycle.Text.Digits
import CertLifecycle.Text.Printable

/-!
Quoted texts, as messages show them: between double quotes, with a backslash before a quote or a
backslash, short escapes for common controls, and the code point in hexadecimal for every other
character that cannot be shown as itself.
-/

namespace CertLifecycle.Text.Quoted

/-- The letter of a short escape. -/
def shortEscape? : Char → Option Char
  | '"' => some '"'
  | '\\' => some '\\'
  | '\n' => some 'n'
  | '\r' => some 'r'
  | '\t' => some 't'
  | '\x00' => some '0'
  | _ => none

/-- How one character is shown between the quotes. -/
def encodeChar (c : Char) : List Char :=
  match shortEscape? c with
  | some letter => ['\\', letter]
  | none =>
    if isPrintable c then [c]
    else ['\\', 'u', '\x7b'] ++ natChars 16 c.toNat ++ ['\x7d']

/-- A text between double quotes. -/
def encode (cs : List Char) : List Char :=
  ['"'] ++ cs.flatMap encodeChar ++ ['"']

end CertLifecycle.Text.Quoted

namespace CertLifecycle.Text

/-- The quoted form of a text. -/
def quote (s : String) : String :=
  String.ofList (Quoted.encode s.toList)

end CertLifecycle.Text
