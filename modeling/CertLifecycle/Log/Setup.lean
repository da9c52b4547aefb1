import CertLifecycle.Log.Directive
import CertLifecycle.Text.Quoted

/-!
Setting up the log. A filter from the environment, where it is respected, takes the place of the
configured one, even if it is empty. Only one log can be in place.
-/

namespace CertLifecycle

/-- What is logged, and how. -/
structure LogConfig where
  filter : String := "info"
  /-- Whether a filter from the environment goes before this one. -/
  respectsEnvironment : Bool := true
  ansi : Bool := false
  deriving DecidableEq

/-- Why the log cannot be set up. -/
inductive LogError where
  /-- The filter of the environment is bad. -/
  | environmentFilter
  /-- The configured filter is bad. -/
  | configuredFilter (filter : String)
  /-- A log is in place already. -/
  | alreadyInstalled
  deriving DecidableEq

namespace LogError

def message : LogError → String
  | .environmentFilter => "invalid RUST_LOG directives"
  | .configuredFilter filter => "invalid log filter " ++ Text.quote filter
  | .alreadyInstalled => "installing tracing subscriber"

end LogError

namespace LogConfig

/-- The filter of the environment, where it goes before the configured one. -/
def overriding (config : LogConfig) (environment : Option String) : Option String :=
  if config.respectsEnvironment then environment else none

/-- The directives in force, given the filter of the environment. -/
def directives (config : LogConfig) (environment : Option String) :
    Except LogError (List Log.Directive) :=
  match config.overriding environment with
  | some filter =>
    match Log.directives? filter with
    | some directives => .ok directives
    | none => .error .environmentFilter
  | none =>
    match Log.directives? config.filter with
    | some directives => .ok directives
    | none => .error (.configuredFilter config.filter)

/-- Sets up the log, unless one is in place. The filter is read first. -/
def install (config : LogConfig) (environment : Option String) (inPlace : Bool) :
    Except LogError (List Log.Directive) := do
  -- A bad filter is reported even where a log is in place.
  let directives ← config.directives environment
  if inPlace then throw .alreadyInstalled
  return directives

end LogConfig

end CertLifecycle
