import CertLifecycle.Json.Token

/-!
The value that a JSON text writes. The tokens are read one by one; the arrays and objects that are
still open wait on a stack, so values may nest as deeply as they like.
-/

namespace CertLifecycle.Json

/-- An array or object that is still open, with its content so far, latest first. -/
inductive Frame where
  | items (before : List Json)
  /-- An object that waits for the value under a name. -/
  | members (before : List (List Piece × Json)) (name : List Piece)

/-- What may come next, and what is open around it. -/
inductive Parser where
  /-- A value must follow. -/
  | awaitValue (stack : List Frame)
  /-- An array was just opened: a value or its end must follow. -/
  | awaitItem (stack : List Frame)
  /-- An object was just opened: a name or its end must follow. -/
  | awaitMember (stack : List Frame)
  /-- After a comma in an object: a name must follow. -/
  | awaitName (before : List (List Piece × Json)) (stack : List Frame)
  /-- After a name: a colon must follow. -/
  | awaitColon (before : List (List Piece × Json)) (name : List Piece) (stack : List Frame)
  /-- A value is complete: a comma or the end of what is open must follow. -/
  | complete (j : Json) (stack : List Frame)

namespace Parser

/-- Reads the first token of a value. -/
def stepValue (stack : List Frame) : Token → Option Parser
  | .openArray => some (.awaitItem stack)
  | .openObject => some (.awaitMember stack)
  | .text pieces => some (.complete (.string pieces) stack)
  | .value j => some (.complete j stack)
  | _ => none

/-- Reads the token after a complete value. -/
def stepAfter (j : Json) : List Frame → Token → Option Parser
  | .items before :: stack, .comma => some (.awaitValue (.items (j :: before) :: stack))
  | .items before :: stack, .closeArray => some (.complete (.array (j :: before).reverse) stack)
  | .members before name :: stack, .comma => some (.awaitName ((name, j) :: before) stack)
  | .members before name :: stack, .closeObject =>
    some (.complete (.object ((name, j) :: before).reverse) stack)
  | _, _ => none

def step : Parser → Token → Option Parser
  | .awaitValue stack, token => stepValue stack token
  | .awaitItem stack, .closeArray => some (.complete (.array []) stack)
  | .awaitItem stack, token => stepValue (.items [] :: stack) token
  | .awaitMember stack, .closeObject => some (.complete (.object []) stack)
  | .awaitMember stack, .text name => some (.awaitColon [] name stack)
  | .awaitMember _, _ => none
  | .awaitName before stack, .text name => some (.awaitColon before name stack)
  | .awaitName _ _, _ => none
  | .awaitColon before name stack, .colon => some (.awaitValue (.members before name :: stack))
  | .awaitColon _ _ _, _ => none
  | .complete j stack, token => stepAfter j stack token

/-- The value, if it is complete and nothing is open. -/
def finish? : Parser → Option Json
  | .complete j [] => some j
  | _ => none

end Parser

/-- The value that the tokens write. -/
def ofTokens? (tokens : List Token) : Option Json := do
  (← tokens.foldlM Parser.step (.awaitValue [])).finish?

/-- The value that a text writes. -/
def parse? (s : String) : Option Json := do
  ofTokens? (← tokens? s.toList)

end CertLifecycle.Json
