import CertLifecycle.Json.Basic
import CertLifecycle.Text.Digits

/-!
The tokens of a JSON text, found by a machine that reads one character at a time. Between tokens
only the four white space characters may stand.
-/

namespace CertLifecycle.Json

/-- A token: punctuation, a whole string, or another whole value. -/
inductive Token where
  | openArray
  | closeArray
  | openObject
  | closeObject
  | comma
  | colon
  | text (pieces : List Piece)
  | value (j : Json)

namespace Token

/-- The token that a punctuation character is. -/
def punctuation? : Char → Option Token
  | '[' => some .openArray
  | ']' => some .closeArray
  | '\x7b' => some .openObject
  | '\x7d' => some .closeObject
  | ',' => some .comma
  | ':' => some .colon
  | _ => none

end Token

/-- The white space that may stand between tokens. -/
def isSpace (c : Char) : Bool :=
  c == ' ' || c == '\t' || c == '\n' || c == '\r'

/-- The digits at the front of a text, and what follows them; there must be a digit. -/
def digits? (cs : List Char) : Option (List Char × List Char) :=
  let digits := cs.takeWhile Char.isDigit
  if digits.isEmpty then none else some (digits, cs.dropWhile Char.isDigit)

/-- Reads past a fraction, if there is one. -/
def afterFraction? : List Char → Option (List Char)
  | '.' :: rest => (digits? rest).map Prod.snd
  | rest => some rest

/-- Reads past an exponent, if there is one. -/
def afterExponent? : List Char → Option (List Char)
  | mark :: rest =>
    if mark = 'e' ∨ mark = 'E' then
      match rest with
      | '+' :: digits => (digits? digits).map Prod.snd
      | '-' :: digits => (digits? digits).map Prod.snd
      | digits => (digits? digits).map Prod.snd
    else some (mark :: rest)
  | [] => some []

/-- The number that a literal writes: a whole part without leading zeros, then perhaps a fraction
and an exponent. -/
def number? (literal : List Char) : Option Json := do
  let (negative, unsigned) :=
    match literal with
    | '-' :: rest => (true, rest)
    | rest => (false, rest)
  let (whole, rest) ← digits? unsigned
  if whole.length > 1 ∧ whole.head? = some '0' then none
  else if rest.isEmpty then (Text.nat? 10 whole).map (.integer negative)
  else if (← afterExponent? (← afterFraction? rest)).isEmpty then some (.real literal)
  else none

/-- The value of a word or a number. -/
def literal? (literal : List Char) : Option Json :=
  match literal with
  | ['n', 'u', 'l', 'l'] => some .null
  | ['t', 'r', 'u', 'e'] => some (.bool true)
  | ['f', 'a', 'l', 's', 'e'] => some (.bool false)
  | _ => number? literal

/-- Whether a character may stand in a word or a number. -/
def isLiteralChar (c : Char) : Bool :=
  c.isAlphanum || c == '+' || c == '-' || c == '.'

/-- The character that a short escape stands for. -/
def unescape? : Char → Option Char
  | '"' => some '"'
  | '\\' => some '\\'
  | '/' => some '/'
  | 'b' => some '\x08'
  | 'f' => some '\x0c'
  | 'n' => some '\n'
  | 'r' => some '\r'
  | 't' => some '\t'
  | _ => none

/-- Whether a code unit is the first half of a pair. -/
def isLead (code : Nat) : Bool :=
  0xd800 ≤ code && code < 0xdc00

/-- Whether a code unit is the second half of a pair. -/
def isTrail (code : Nat) : Bool :=
  0xdc00 ≤ code && code < 0xe000

/-- Adds an escaped code unit to the elements read so far, the latest first. A second half completes
a first half directly before it. -/
def pushUnit (code : Nat) (before : List Piece) : List Piece :=
  if isTrail code then
    -- A first half that is completed leaves the list; a second half without one stands alone.
    match before with
    | .surrogate lead :: earlier =>
      if isLead lead.toNat then
        .char (Char.ofNat (0x10000 + (lead.toNat - 0xd800) * 0x400 + (code - 0xdc00))) :: earlier
      else .surrogate (UInt16.ofNat code) :: before
    | _ => .surrogate (UInt16.ofNat code) :: before
  else if isLead code then .surrogate (UInt16.ofNat code) :: before
  else .char (Char.ofNat code) :: before

/-- What the machine is inside of. Elements of a string and characters of a literal are kept latest
first. -/
inductive Mode where
  | between
  | literal (before : List Char)
  | string (before : List Piece)
  | escape (before : List Piece)
  /-- Inside the digits of a code unit: how many are missing, and the value so far. -/
  | unit (before : List Piece) (missing : Nat) (code : Nat)

/-- The machine: the tokens found so far, latest first, and the mode. -/
structure Lexer where
  found : List Token
  mode : Mode

namespace Lexer

/-- Before the first character. -/
def start : Lexer :=
  ⟨[], .between⟩

/-- Reads a character that stands between tokens or begins one. -/
def stepBetween (found : List Token) (c : Char) : Option Lexer :=
  match Token.punctuation? c with
  | some token => some ⟨token :: found, .between⟩
  | none =>
    if isSpace c then some ⟨found, .between⟩
    else if c = '"' then some ⟨found, .string []⟩
    else if isLiteralChar c then some ⟨found, .literal [c]⟩
    else none

/-- Reads a character inside a string. -/
def stepString (found : List Token) (before : List Piece) (c : Char) : Lexer :=
  if c = '"' then ⟨.text before.reverse :: found, .between⟩
  else if c = '\\' then ⟨found, .escape before⟩
  else if c.toNat < 0x20 then ⟨found, .string (.bareControl c :: before)⟩
  else ⟨found, .string (.char c :: before)⟩

/-- Reads the character after a backslash. -/
def stepEscape (found : List Token) (before : List Piece) (c : Char) : Option Lexer :=
  if c = 'u' then some ⟨found, .unit before 3 0⟩
  else (unescape? c).map fun char => ⟨found, .string (.char char :: before)⟩

/-- Reads one digit of a code unit. -/
def stepUnit (found : List Token) (before : List Piece) (code : Nat) (c : Char) :
    Nat → Option Lexer
  | 0 => (Text.digit? 16 c).map fun d => ⟨found, .string (pushUnit (code * 16 + d) before)⟩
  | missing + 1 => (Text.digit? 16 c).map fun d => ⟨found, .unit before missing (code * 16 + d)⟩

def step (lexer : Lexer) (c : Char) : Option Lexer :=
  match lexer.mode with
  | .between => stepBetween lexer.found c
  | .literal before =>
    if isLiteralChar c then some ⟨lexer.found, .literal (c :: before)⟩
    else do
      let value ← literal? before.reverse
      stepBetween (.value value :: lexer.found) c
  | .string before => some (stepString lexer.found before c)
  | .escape before => stepEscape lexer.found before c
  | .unit before missing code => stepUnit lexer.found before code c missing

/-- The tokens in order, if the text may end here. -/
def finish? (lexer : Lexer) : Option (List Token) :=
  match lexer.mode with
  | .between => some lexer.found.reverse
  | .literal before => do
    let value ← literal? before.reverse
    some (.value value :: lexer.found).reverse
  | _ => none

end Lexer

/-- The tokens of a text. -/
def tokens? (cs : List Char) : Option (List Token) := do
  (← cs.foldlM Lexer.step Lexer.start).finish?

end CertLifecycle.Json
