import CertLifecycle.Predicate.Tests
import CertLifecycle.Reconcile.Queue
import CertLifecycle.Resource.StoredObject
import CertLifecycle.Store.Listing

/-!
Which certificates must be looked at again when a secret changes: those that name the secret, in the
role that is watched. Their keys are put into the queue.
-/

namespace CertLifecycle

/-- How changed secrets are matched to certificates. -/
structure Correlator where
  /-- Which certificates are considered at all. -/
  selector : LabelSelector
  role : SecretRole
  deriving DecidableEq

namespace Correlator

/-- The keys of certificates in order. One without a key is reported and left out. -/
def keysOf : List Certificate → Logged (List Key)
  | [] => pure []
  | certificate :: rest =>
    match Key.ofObject certificate with
    | .ok key => do
      let keys ← keysOf rest
      return key :: keys
    -- One certificate without a key does not keep the others from being found.
    | .error error => do
      Logged.report (.keyFailure error certificate.metadata.scope)
      keysOf rest

/-- The keys of the certificates that name a secret. -/
def owners (correlator : Correlator) (lister : Lister Certificate) (secret : Secret) :
    Logged (Except StoreError (List Key)) := do
  let filtered ← lister.matching secret.metadata.scope correlator.selector
    (fun test certificate => test certificate)
    (.test (correlator.role.test secret.metadata.name))
  match filtered.found with
  | .error error => return .error error
  | .ok certificates => return .ok (← keysOf certificates)

/-- Puts keys into the queue one after the other because of a secret. -/
def enqueue (secret : String) : Queue → List Key → Logged Queue
  | queue, [] => pure queue
  | queue, key :: rest => do
    Logged.report (.enqueuing key secret)
    enqueue secret (queue.add key) rest

/-- Takes note of a change: gives the keys that were put into the queue, and the queue. A change of
any other object than a secret does nothing, and neither does a listing that fails. -/
def notify (correlator : Correlator) (lister : Lister Certificate) (object : StoredObject)
    (queue : Queue) : Logged (List Key × Queue) :=
  match object with
  | .secret secret => do
    match ← correlator.owners lister secret with
    | .error error =>
      Logged.report (.listingFailure error secret.metadata.scope secret.metadata.name)
      return ([], queue)
    | .ok keys => return (keys, ← enqueue secret.metadata.name queue keys)
  | other => do
    Logged.report (.ignoredObject other.kind other.metadata.scope other.metadata.name)
    return ([], queue)

end Correlator

end CertLifecycle
