import CertLifecycle.Json.Fields
import CertLifecycle.Json.Parser
import CertLifecycle.Log.Setup
import CertLifecycle.Reconcile.Correlator

/-!
The configuration of a correlator and of its log, as it is read from JSON. Every field has a value
of its own when it is not given.
-/

namespace CertLifecycle

/-- The configuration of a correlator. -/
structure CorrelatorConfig where
  /-- The text of the selector of the certificates that are considered. -/
  labelSelector : String := ""
  trigger : SecretRole := .issued
  logging : LogConfig := {}
  deriving DecidableEq

/-- Why there is no configuration, or none that can be used. -/
inductive ConfigError where
  | unreadable
  | malformed
  | selector (error : SelectorError)
  deriving DecidableEq

namespace ConfigError

def message : ConfigError → String
  | .unreadable => "reading config file"
  | .malformed => "parsing config"
  | .selector error => "label selector: " ++ error.message

end ConfigError

namespace SecretRole

/-- The JSON form of a role: its name. -/
def toJson (role : SecretRole) : Json :=
  .ofString role.text

def ofJson? (j : Json) : Option SecretRole :=
  j.choice? ofText?

end SecretRole

namespace LogConfig

def fieldNames : List String :=
  ["filter", "respect_env", "ansi"]

def toJson (config : LogConfig) : Json :=
  .ofMembers [
    ("filter", .ofString config.filter),
    ("respect_env", .bool config.respectsEnvironment),
    ("ansi", .bool config.ansi)]

def ofJson? (j : Json) : Option LogConfig := do
  let fields ← j.fields? fieldNames
  some {
    filter := ← fields.withDefault "filter" "info" Json.text?
    respectsEnvironment := ← fields.withDefault "respect_env" true Json.bool?
    ansi := ← fields.withDefault "ansi" false Json.bool? }

end LogConfig

namespace CorrelatorConfig

def fieldNames : List String :=
  ["label_selector", "trigger", "logging"]

def toJson (config : CorrelatorConfig) : Json :=
  .ofMembers [
    ("label_selector", .ofString config.labelSelector),
    ("trigger", config.trigger.toJson),
    ("logging", config.logging.toJson)]

def ofJson? (j : Json) : Option CorrelatorConfig := do
  let fields ← j.fields? fieldNames
  some {
    labelSelector := ← fields.withDefault "label_selector" "" Json.text?
    trigger := ← fields.withDefault "trigger" .issued SecretRole.ofJson?
    logging := ← fields.withDefault "logging" {} LogConfig.ofJson? }

/-- Reads a configuration from its text. -/
def parse (s : String) : Except ConfigError CorrelatorConfig :=
  match (Json.parse? s).bind ofJson? with
  | some config => .ok config
  | none => .error .malformed

/-- Reads a configuration from the content of a file; there is none if the file does not exist. The
content must be valid UTF-8. -/
def ofFile (content : Option (List UInt8)) : Except ConfigError CorrelatorConfig :=
  match content.bind Text.ofUtf8? with
  | some s => parse s
  | none => .error .unreadable

/-- The configured selector. -/
def selector (config : CorrelatorConfig) : Except ConfigError LabelSelector :=
  match LabelSelector.parse config.labelSelector with
  | .ok selector => .ok selector
  | .error error => .error (.selector error)

/-- The configured correlator. -/
def correlator (config : CorrelatorConfig) : Except ConfigError Correlator := do
  return ⟨← config.selector, config.trigger⟩

end CorrelatorConfig

end CertLifecycle
