import CertLifecycle.Text.Digits

/-!
Percent encoding: which characters each part of a URI escapes, and how an escape is written and
read. Control characters and characters outside ASCII are escaped everywhere.
-/

namespace CertLifecycle.Uri

/-- What every part of a URI escapes. -/
def escapesControls (c : Char) : Bool :=
  c.toNat < 0x20 || 0x7e < c.toNat

/-- What a fragment escapes. -/
def escapesInFragment (c : Char) : Bool :=
  escapesControls c || c ∈ [' ', '"', '<', '>', '\x60']

/-- What a path segment escapes. -/
def escapesInPath (c : Char) : Bool :=
  escapesInFragment c || c ∈ ['#', '?', '\x7b', '\x7d']

/-- What a user name or password escapes. -/
def escapesInUserInfo (c : Char) : Bool :=
  escapesInPath c || c ∈ ['/', ':', ';', '=', '@', '[', '\\', ']', '^', '|']

/-- What a query escapes; the quote belongs to the schemes of the web only. -/
def escapesInQuery (web : Bool) (c : Char) : Bool :=
  escapesControls c || c ∈ [' ', '"', '#', '<', '>'] || (web && c == '\'')

/-- An escaped byte: a percent sign and two upper-case hexadecimal digits. -/
def escapedByte (byte : UInt8) : List Char :=
  ['%', (byte.toNat / 16).digitChar.toUpper, (byte.toNat % 16).digitChar.toUpper]

/-- A character, escaped byte by byte if its part of the URI asks for it. -/
def escapeChar (escapes : Char → Bool) (c : Char) : List Char :=
  if escapes c then (String.utf8EncodeChar c).flatMap escapedByte else [c]

/-- Escapes the characters of a part. -/
def escape (escapes : Char → Bool) (cs : List Char) : List Char :=
  cs.flatMap (escapeChar escapes)

/-- The bytes of a text with its escapes undone; a percent sign without two digits stands for
itself. -/
def unescape : List Char → List UInt8
  | '%' :: high :: low :: rest =>
    match Text.digit? 16 high, Text.digit? 16 low with
    | some h, some l => UInt8.ofNat (h * 16 + l) :: unescape rest
    | _, _ => 0x25 :: unescape (high :: low :: rest)
  | c :: rest => String.utf8EncodeChar c ++ unescape rest
  | [] => []

end CertLifecycle.Uri
