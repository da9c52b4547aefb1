import CertLifecycle.Proofs.Collection.SameElements
import CertLifecycle.Proofs.Reconcile.Owners
import CertLifecycle.Proofs.Reconcile.Queue
import Mathlib.Logic.Relation

/-!
Several notifications are handled at the same time and share one queue. Each finds its keys and then adds
them one by one, and between any two of these steps the others may take some of theirs. Main result:
`interleavings_agree`, in whatever order the steps fall, the queue keeps what waited in front and holds
every key that was found, once.
-/

namespace CertLifecycle

open Collection (SameSet)

/-- An announced change with the correlator that takes note of it, and the certificates that it reads. -/
structure Notification where
  correlator : Correlator
  lister : Lister Certificate
  object : StoredObject

namespace Notification

/-- The keys that a notification gives back. -/
def keys (notification : Notification) : List Key :=
  (notification.correlator.notify notification.lister notification.object .empty).result.1

/-- What a notification finds does not depend on the queue, and handled alone it adds just that. -/
theorem notify_result (notification : Notification) (queue : Queue) :
    (notification.correlator.notify notification.lister notification.object queue).result =
      (notification.keys, queue.addAll notification.keys) := by
  obtain ⟨correlator, lister, object⟩ := notification
  unfold keys
  cases object with
  | secret secret =>
    rw [Correlator.notify_secret, Correlator.notify_secret]
    cases (correlator.owners lister secret).result with
    | error error => rfl
    | ok keys => rfl
  | certificate object => rfl
  | request object => rfl
  | other kind metadata => rfl

end Notification

/-- How far a notification has come. -/
inductive Handling where
  | announced (notification : Notification)
  /-- The keys are found, and these are still to be added. -/
  | adding (left : List Key)

namespace Handling

/-- The keys that are still to be added. -/
def left : Handling → List Key
  | .announced notification => notification.keys
  | .adding left => left

end Handling

/-- A queue and those that add to it. -/
structure SharedQueue where
  queue : Queue
  handlings : List Handling

namespace SharedQueue

/-- One of the handlings goes on by one step, whichever it is. -/
inductive Step : SharedQueue → SharedQueue → Prop where
  | find (queue : Queue) (before after : List Handling) (notification : Notification) :
    Step ⟨queue, before ++ .announced notification :: after⟩
      ⟨queue, before ++ .adding notification.keys :: after⟩
  | add (queue : Queue) (before after : List Handling) (key : Key) (rest : List Key) :
    Step ⟨queue, before ++ .adding (key :: rest) :: after⟩
      ⟨queue.add key, before ++ .adding rest :: after⟩

/-- Any number of steps, in any interleaving. -/
def Run : SharedQueue → SharedQueue → Prop :=
  Relation.ReflTransGen Step

/-- Notifications that nobody has begun to handle. -/
def start (queue : Queue) (notifications : List Notification) : SharedQueue :=
  ⟨queue, notifications.map .announced⟩

/-- Nothing is left to be done. -/
def Finished (shared : SharedQueue) : Prop :=
  ∀ handling ∈ shared.handlings, handling = .adding []

/-- A key waits, or it will once every handling has finished. -/
def Expects (shared : SharedQueue) (key : Key) : Prop :=
  key ∈ shared.queue.toList ∨ ∃ handling ∈ shared.handlings, key ∈ handling.left

/-- What stays as it is while handlings go on. -/
structure Extends (first second : SharedQueue) : Prop where
  front : first.queue.toList <+: second.queue.toList
  expected : ∀ key, second.Expects key ↔ first.Expects key

theorem Extends.refl (shared : SharedQueue) : shared.Extends shared :=
  ⟨List.prefix_rfl, fun _ => Iff.rfl⟩

theorem Extends.trans {first second third : SharedQueue} (early : first.Extends second)
    (late : second.Extends third) : first.Extends third :=
  ⟨early.front.trans late.front, fun key => (late.expected key).trans (early.expected key)⟩

theorem consistent_step {first second : SharedQueue} (step : Step first second)
    (consistent : first.queue.Consistent) : second.queue.Consistent := by
  cases step with
  | find => exact consistent
  | add queue before after key rest => exact Queue.consistent_add consistent key

theorem expects_iff (queue : Queue) (before after : List Handling) (handling : Handling) (key : Key) :
    Expects ⟨queue, before ++ handling :: after⟩ key ↔
      (key ∈ queue.toList ∨ key ∈ handling.left) ∨ ∃ other ∈ before ++ after, key ∈ other.left := by
  have among : (∃ other ∈ before ++ handling :: after, key ∈ other.left) ↔
      key ∈ handling.left ∨ ∃ other ∈ before ++ after, key ∈ other.left := by
    simp only [List.mem_append, List.mem_cons, or_left_comm, or_and_right, exists_or, exists_eq_left]
  rw [Expects, among, or_assoc]

/-- A step only moves one key from those that are left to those that wait, if it does not wait yet. -/
theorem extends_step {first second : SharedQueue} (step : Step first second)
    (consistent : first.queue.Consistent) : first.Extends second := by
  cases step with
  | find queue before after notification =>
    refine ⟨List.prefix_rfl, fun key => ?_⟩
    rw [expects_iff, expects_iff]
    rfl
  | add queue before after key rest =>
    constructor
    · rw [Queue.toList_add consistent]
      split
      next => exact List.prefix_rfl
      next => exact List.prefix_append _ _
    · intro other
      rw [expects_iff, expects_iff, Queue.mem_toList_add consistent]
      refine or_congr_left ?_
      rw [Handling.left, Handling.left, List.mem_cons, or_assoc]
      exact or_left_comm

theorem consistent_and_extends_run {first second : SharedQueue} (run : Run first second)
    (consistent : first.queue.Consistent) : second.queue.Consistent ∧ first.Extends second := by
  induction run with
  | refl => exact ⟨consistent, .refl first⟩
  | tail _ step ih =>
    obtain ⟨kept, early⟩ := ih
    exact ⟨consistent_step step kept, early.trans (extends_step step kept)⟩

theorem expects_start (queue : Queue) (notifications : List Notification) (key : Key) :
    (start queue notifications).Expects key ↔
      key ∈ queue.toList ∨ ∃ notification ∈ notifications, key ∈ notification.keys := by
  simp [Expects, start, Handling.left]

theorem expects_of_finished {shared : SharedQueue} (finished : shared.Finished) (key : Key) :
    shared.Expects key ↔ key ∈ shared.queue.toList := by
  refine or_iff_left ?_
  rintro ⟨handling, member, later⟩
  rw [finished handling member] at later
  exact absurd later (by simp [Handling.left])

/-- One handling can always be brought to its end, however far the others are. -/
theorem run_handling (queue : Queue) (before after : List Handling) (handling : Handling) :
    Run ⟨queue, before ++ handling :: after⟩
      ⟨queue.addAll handling.left, before ++ .adding [] :: after⟩ := by
  have adding (left : List Key) (queue : Queue) : Run ⟨queue, before ++ .adding left :: after⟩
      ⟨queue.addAll left, before ++ .adding [] :: after⟩ := by
    induction left generalizing queue with
    | nil => exact .refl
    | cons key rest ih => exact .head (.add queue before after key rest) (ih (queue.add key))
  cases handling with
  | announced notification =>
    exact .head (.find queue before after notification) (adding notification.keys queue)
  | adding left => exact adding left queue

/-- No state is a dead end: the handlings may be finished one after the other. -/
theorem exists_finished (shared : SharedQueue) : ∃ final, Run shared final ∧ final.Finished := by
  obtain ⟨queue, handlings⟩ := shared
  -- The handlings in front are at their end already.
  have finish : ∀ before : List Handling, (∀ handling ∈ before, handling = .adding []) →
      ∀ queue, ∃ final, Run ⟨queue, before ++ handlings⟩ final ∧ final.Finished := by
    induction handlings with
    | nil =>
      intro before ended queue
      rw [List.append_nil]
      exact ⟨⟨queue, before⟩, .refl, ended⟩
    | cons handling after ih =>
      intro before ended queue
      have ended' : ∀ other ∈ before ++ [.adding []], other = .adding [] := by
        intro other member
        rcases List.mem_append.mp member with early | here
        · exact ended other early
        · exact List.mem_singleton.mp here
      obtain ⟨final, later, finished⟩ := ih _ ended' (queue.addAll handling.left)
      rw [List.append_assoc, List.singleton_append] at later
      exact ⟨final, (run_handling queue before after handling).trans later, finished⟩
  exact finish [] (by simp) queue

/-- Handlings that are finished have added their keys to the queue, whatever the order of their steps. -/
theorem toList_of_finished {queue : Queue} (consistent : queue.Consistent)
    {notifications : List Notification} {final : SharedQueue} (run : Run (start queue notifications) final)
    (finished : final.Finished) :
    queue.toList <+: final.queue.toList ∧ final.queue.Consistent ∧
      ∀ key, key ∈ final.queue.toList ↔
        key ∈ queue.toList ∨ ∃ notification ∈ notifications, key ∈ notification.keys := by
  obtain ⟨kept, extends'⟩ := consistent_and_extends_run run consistent
  refine ⟨extends'.front, kept, fun key => ?_⟩
  rw [← expects_of_finished finished, extends'.expected, expects_start]

/-- Notifications are handled at the same time, on a queue with any history. Each of them alone would find
its keys and add them in order. However their steps are interleaved, what waited before stays in front, no
key waits twice, and those that wait in the end are the ones that waited before and the ones that were
found. So the order of the steps and repeated notifications make no difference to which keys wait. Handlings
under way can always be finished. -/
theorem interleavings_agree (calls : List Queue.Call) (notifications : List Notification) :
    (∀ notification ∈ notifications, ∀ queue,
      (notification.correlator.notify notification.lister notification.object queue).result =
        (notification.keys, queue.addAll notification.keys)) ∧
    (∀ final, Run (start (.replay calls) notifications) final → final.Finished →
      (Queue.replay calls).toList <+: final.queue.toList ∧ final.queue.toList.Nodup ∧
      (∀ key, final.queue.pending.contains key = true ↔ key ∈ final.queue.toList) ∧
      (∀ key, key ∈ final.queue.toList ↔ key ∈ (Queue.replay calls).toList ∨
        ∃ notification ∈ notifications, key ∈ notification.keys) ∧
      ∀ notifications', SameSet notifications notifications' →
        ∀ final', Run (start (.replay calls) notifications') final' → final'.Finished →
          SameSet final.queue.toList final'.queue.toList) ∧
    ∀ shared, Run (start (.replay calls) notifications) shared →
      ∃ final, Run shared final ∧ final.Finished := by
  have consistent := Queue.consistent_replay calls
  refine ⟨fun notification _ queue => notification.notify_result queue, ?_, fun shared _ =>
    exists_finished shared⟩
  intro final run finished
  obtain ⟨front, kept, members⟩ := toList_of_finished consistent run finished
  refine ⟨front, kept.distinct, kept.covers, members, ?_⟩
  intro notifications' same final' run' finished' key
  obtain ⟨_, _, members'⟩ := toList_of_finished consistent run' finished'
  rw [members, members']
  exact or_congr_right (exists_congr fun notification => and_congr_left fun _ => same notification)

/-- A change of a secret that two certificates name. -/
def sharedSecret : Notification :=
  ⟨⟨.everything, .issued⟩, (Store.ofList [Certificate.bare "default" "web" "shared",
    Certificate.bare "default" "api" "shared"]).lister, .secret ⟨.named "default" "shared", ∅⟩⟩

theorem keys_sharedSecret : sharedSecret.keys = [⟨"default/web"⟩, ⟨"default/api"⟩] := by
  decide

/-- The change is announced twice, and the two handlings take turns: in the end the same keys wait as if it
had been announced once. -/
theorem taking_turns_agrees_with_once :
    (∀ queue, (sharedSecret.correlator.notify sharedSecret.lister sharedSecret.object queue).result =
      (sharedSecret.keys, queue.addAll sharedSecret.keys)) ∧
    ∃ final final' : SharedQueue,
      Run (start (.replay [.add ⟨"default/api"⟩]) [sharedSecret, sharedSecret]) final ∧
      final.Finished ∧ SameSet [sharedSecret, sharedSecret] [sharedSecret] ∧
      Run (start (.replay [.add ⟨"default/api"⟩]) [sharedSecret]) final' ∧ final'.Finished ∧
      final.queue.toList.Nodup ∧ SameSet final.queue.toList final'.queue.toList := by
  obtain ⟨alone, agree, _⟩ :=
    interleavings_agree [.add ⟨"default/api"⟩] [sharedSecret, sharedSecret]
  obtain ⟨_, _, finish⟩ := interleavings_agree [.add ⟨"default/api"⟩] [sharedSecret]
  let queue := Queue.replay [.add ⟨"default/api"⟩]
  let queue' := (((queue.add ⟨"default/web"⟩).add ⟨"default/web"⟩).add ⟨"default/api"⟩).add
    ⟨"default/api"⟩
  have turns : Run (start queue [sharedSecret, sharedSecret]) ⟨queue', [.adding [], .adding []]⟩ := by
    refine .head (.find _ [] [_] sharedSecret) ?_
    refine .head (.find _ [_] [] sharedSecret) ?_
    rw [keys_sharedSecret]
    refine .head (.add _ [] [_] _ _) ?_
    refine .head (.add _ [_] [] _ _) ?_
    refine .head (.add _ [] [_] _ _) ?_
    exact .single (.add _ [_] [] _ _)
  have ended : Finished ⟨queue', [.adding [], .adding []]⟩ := by simp [Finished]
  have repeated : SameSet [sharedSecret, sharedSecret] [sharedSecret] := by simp [SameSet]
  obtain ⟨final', once, ended'⟩ := finish _ .refl
  obtain ⟨_, distinct, _, _, same⟩ := agree _ turns ended
  exact ⟨alone sharedSecret List.mem_cons_self, _, final', turns, ended, repeated, once, ended', distinct,
    same _ repeated final' once ended'⟩

end SharedQueue

end CertLifecycle
