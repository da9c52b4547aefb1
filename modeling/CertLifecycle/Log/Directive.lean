import CertLifecycle.Log.Event
import CertLifecycle.Text.Alphanumeric
import CertLifecycle.Text.Blank
import CertLifecycle.Text.Split

/-!
Filters of log events: directives between commas, each a target, a level, or a target with a level.
-/

namespace CertLifecycle.Log

/-- One directive: what it is about, and the level set for it; none turns it off. -/
structure Directive where
  subject : List Char
  level : Option LogLevel
  deriving DecidableEq

namespace Directive

/-- The level with a number, or off for zero. -/
def levelOfNumber? : Nat → Option (Option LogLevel)
  | 0 => some none
  | 1 => some (some .error)
  | 2 => some (some .warn)
  | 3 => some (some .info)
  | 4 => some (some .debug)
  | 5 => some (some .trace)
  | _ => none

/-- The level with a name, in upper or lower case. -/
def levelOfName? (cs : List Char) : Option (Option LogLevel) :=
  match String.ofList (cs.map Char.toLower) with
  | "off" => some none
  | "error" => some (some .error)
  | "warn" => some (some .warn)
  | "info" => some (some .info)
  | "debug" => some (some .debug)
  | "trace" => some (some .trace)
  | _ => none

/-- A whole number, perhaps after a plus sign. -/
def number? : List Char → Option Nat
  | '+' :: digits => Text.nat? 10 digits
  | digits => Text.nat? 10 digits

/-- A level by number or name. -/
def level? (cs : List Char) : Option (Option LogLevel) :=
  ((number? cs).bind levelOfNumber?).or (levelOfName? cs)

/-- Whether a directive may begin with a character. -/
def mayBegin (c : Char) : Bool :=
  c == '-' || c == ':' || c == '_' || Text.isAlphanumeric c

/-- Reads a directive, which must begin with such a character after white space. Without an equals
sign it is a level or a target; with one, no white space may stand around it, and what follows the
first sign is the level. -/
def parse? (part : List Char) : Option Directive :=
  if (Text.trim part).head?.any mayBegin then
    match Text.cutAt? ['='] part with
    | none =>
      match level? part with
      | some level => some ⟨[], level⟩
      | none => some ⟨part, some .trace⟩
    | some (subject, level) =>
      if Text.trim part ≠ part then none
      -- Nothing after the equals sign lets every event through.
      else if level.isEmpty then some ⟨subject, some .trace⟩
      else (level? level).map fun level => ⟨subject, level⟩
  else none

end Directive

/-- The directives of a filter; empty parts are passed over. -/
def directives? (filter : String) : Option (List Directive) :=
  ((Text.pieces ',' filter.toList).filter fun part => !part.isEmpty).mapM Directive.parse?

end CertLifecycle.Log
