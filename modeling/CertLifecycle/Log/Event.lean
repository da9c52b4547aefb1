import CertLifecycle.Reconcile.Key
import CertLifecycle.Store.Error

/-!
What the library reports while it works. An event has a level, a fixed message, and fields by name.
-/

namespace CertLifecycle

/-- How important an event is. -/
inductive LogLevel where
  | error
  | warn
  | info
  | debug
  | trace
  deriving DecidableEq

namespace LogLevel

def text : LogLevel → String
  | .error => "ERROR"
  | .warn => "WARN"
  | .info => "INFO"
  | .debug => "DEBUG"
  | .trace => "TRACE"

end LogLevel

/-- Something that happened. -/
inductive Event where
  /-- A listing was filtered: so many objects came, so many were kept. -/
  | filteredListing (scope : String) (selector : LabelSelector) (total matched : Nat)
  /-- A change of an object that is no secret was passed over. -/
  | ignoredObject (kind scope name : String)
  /-- A certificate was left out because it has no key. -/
  | keyFailure (error : KeyError) (scope : String)
  /-- The certificates that name a secret could not be listed. -/
  | listingFailure (error : StoreError) (scope secret : String)
  /-- A certificate is put into the queue because of a secret. -/
  | enqueuing (key : Key) (secret : String)
  deriving DecidableEq

namespace Event

def level : Event → LogLevel
  | .filteredListing .. => .trace
  | .ignoredObject .. => .debug
  | .keyFailure .. => .error
  | .listingFailure .. => .error
  | .enqueuing .. => .debug

def message : Event → String
  | .filteredListing .. => "filtered listing"
  | .ignoredObject .. => "ignoring non-Secret object"
  | .keyFailure .. => "error determining key for certificate"
  | .listingFailure .. => "failed listing certificates"
  | .enqueuing .. => "enqueueing certificate"

def fields : Event → List (String × String)
  | .filteredListing scope selector total matched =>
    [("namespace", scope), ("selector", selector.text), ("total", Text.decimal total),
      ("matched", Text.decimal matched)]
  | .ignoredObject kind scope name => [("kind", kind), ("namespace", scope), ("name", name)]
  | .keyFailure error scope => [("error", error.message), ("namespace", scope)]
  | .listingFailure error scope secret =>
    [("error", error.message), ("namespace", scope), ("secret", secret)]
  | .enqueuing key secret => [("key", key.text), ("secret", secret)]

end Event

/-- A result with the events on the way to it, in order. -/
structure Logged (α : Type) where
  result : α
  events : List Event

namespace Logged

instance : Monad Logged where
  pure result := ⟨result, []⟩
  bind first next :=
    let second := next first.result
    ⟨second.result, first.events ++ second.events⟩

def report (event : Event) : Logged Unit :=
  ⟨(), [event]⟩

end Logged

end CertLifecycle
