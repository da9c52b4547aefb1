import CertLifecycle.Proofs.Reconcile.Owners

/-!
A controller at work: certificates are written to the store, keys are added to the queue and taken from
it, and changes of objects are announced, in any order. Main result: `announce_after_run`, what an
announcement gives and leaves behind, whatever happened before.
-/

namespace CertLifecycle

/-- The store of certificates, and the queue of the keys that wait. -/
structure Controller where
  store : Store Certificate := {}
  queue : Queue := .empty

namespace Controller

/-- Something that happens to a controller. -/
inductive Action where
  | write (change : Store.Write Certificate)
  | call (step : Queue.Call)
  /-- A change of an object is announced to a correlator. -/
  | announce (correlator : Correlator) (object : StoredObject)

/-- The keys that an announcement puts into the queue, and the queue after it. -/
def answer (controller : Controller) (correlator : Correlator) (object : StoredObject) :
    List Key × Queue :=
  (correlator.notify controller.store.lister object controller.queue).result

def act (controller : Controller) : Action → Controller
  | .write change => { controller with store := controller.store.write change }
  | .call step => { controller with queue := controller.queue.call step }
  | .announce correlator object =>
    { controller with queue := (controller.answer correlator object).2 }

/-- The controller after a history of actions on a new one. -/
def run (history : List Action) : Controller :=
  history.foldl act {}

def writes (history : List Action) : List (Store.Write Certificate) :=
  history.filterMap fun
    | .write change => some change
    | _ => none

theorem run_append_singleton (history : List Action) (last : Action) :
    run (history ++ [last]) = (run history).act last := by
  simp [run]

/-- Only writes change the store. -/
theorem store_run (history : List Action) :
    (run history).store = Store.replay (writes history) := by
  induction history using List.reverseRecOn with
  | nil => rfl
  | append_singleton history last ih =>
    rw [run_append_singleton, writes, List.filterMap_append]
    cases last with
    | write change =>
      change (run history).store.write change = Store.replay (writes history ++ [change])
      rw [Store.replay_append_singleton, ih]
    | call step =>
      rw [List.filterMap_cons_none rfl, List.filterMap_nil, List.append_nil]
      exact ih
    | announce correlator object =>
      rw [List.filterMap_cons_none rfl, List.filterMap_nil, List.append_nil]
      exact ih

/-- An announcement adds keys one after the other, so it keeps the queue in step like calls do. -/
theorem consistent_answer {controller : Controller} (consistent : controller.queue.Consistent)
    (correlator : Correlator) (object : StoredObject) :
    (controller.answer correlator object).2.Consistent := by
  unfold answer
  cases object with
  | secret secret =>
    rw [Correlator.notify_secret]
    cases (correlator.owners controller.store.lister secret).result with
    | error error => exact consistent
    | ok keys => exact Queue.consistent_addAll consistent keys
  | certificate object => exact consistent
  | request object => exact consistent
  | other kind metadata => exact consistent

theorem consistent_run (history : List Action) : (run history).queue.Consistent := by
  induction history using List.reverseRecOn with
  | nil => exact Queue.consistent_empty
  | append_singleton history last ih =>
    rw [run_append_singleton]
    cases last with
    | write change => exact ih
    | call step => exact Queue.consistent_call ih step
    | announce correlator object => exact consistent_answer ih correlator object

theorem queue_run_announce (history : List Action) (correlator : Correlator)
    (object : StoredObject) :
    (run (history ++ [.announce correlator object])).queue =
      ((run history).answer correlator object).2 := by
  rw [run_append_singleton]
  rfl

/-- An announcement leaves the store as it is, which holds what was written last to each place and is out
of service for the reason set last. If a secret changed and the store is in service, the keys are those of
the certificates that it concerns, in the order of the store; behind the keys that waited, the first
occurrence of each other one is put. In every other case there are no keys, and the queue stays. -/
theorem announce_after_run (history : List Action) (correlator : Correlator)
    (object : StoredObject) :
    (run (history ++ [.announce correlator object])).store = (run history).store ∧
      (∀ certificate, certificate ∈ (run history).store.objects ↔
        Collection.Latest (Store.Write.Touches (Resource.placeOf certificate)) (writes history)
          (.insert certificate)) ∧
      (∀ reason, (run history).store.outage = some reason ↔
        Collection.Latest Store.Write.Switches (writes history) (.setOutage (some reason))) ∧
      match object, (run history).store.outage with
      | .secret secret, none =>
        Correlator.KeysOf (correlator.concerned (run history).store secret)
            ((run history).answer correlator object).1 ∧
          (run (history ++ [.announce correlator object])).queue.toList =
            (run history).queue.toList ++ (((run history).answer correlator object).1.filter
              fun key => key ∉ (run history).queue.toList).eraseDups
      | _, _ =>
        ((run history).answer correlator object).1 = [] ∧
          (run (history ++ [.announce correlator object])).queue = (run history).queue := by
  have kept : (run (history ++ [.announce correlator object])).store = (run history).store := by
    rw [run_append_singleton]
    rfl
  refine ⟨kept, fun certificate => ?_, fun reason => ?_, ?_⟩
  · rw [store_run]
    exact Store.mem_replay_iff (writes history) certificate
  · rw [store_run]
    exact Store.outage_replay_iff (writes history) reason
  -- What is left is one announcement to a controller whose queue is in step.
  rw [queue_run_announce]
  unfold answer
  cases object with
  | secret secret =>
    rw [Correlator.notify_secret]
    cases state : (run history).store.outage with
    | some reason =>
      rw [Correlator.owners_in_outage correlator secret state]
      exact ⟨rfl, rfl⟩
    | none =>
      obtain ⟨keys, found, cut⟩ := Correlator.owners_in_service correlator secret state
      rw [found]
      exact ⟨cut, Queue.toList_addAll (consistent_run history) keys⟩
  | certificate object => exact ⟨rfl, rfl⟩
  | request object => exact ⟨rfl, rfl⟩
  | other kind metadata => exact ⟨rfl, rfl⟩

end Controller

end CertLifecycle
