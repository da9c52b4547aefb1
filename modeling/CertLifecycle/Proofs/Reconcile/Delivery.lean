import CertLifecycle.Proofs.Collection.Arrival
import CertLifecycle.Proofs.Reconcile.Queue

/-!
What the takers of keys see over a whole history of calls, by any number of callers in any order. Main
result: `delivers_each_once`, no key that was added is lost, none is given out twice for one addition,
and keys are given out in the order in which they began to wait.
-/

namespace CertLifecycle.Queue

open Collection (Present PresentSince InOrderOfArrival)

/-- What a call came to: a key was handed in, or a key was given out if there was one. -/
inductive Event where
  | added (key : Key)
  | popped (taken : Option Key)
  deriving DecidableEq

namespace Event

def Brings (key : Key) (event : Event) : Prop :=
  event = .added key

def Takes (key : Key) (event : Event) : Prop :=
  event = .popped (some key)

theorem not_takes_of_brings (key : Key) (event : Event) (brings : event.Brings key) :
    ¬event.Takes key := by
  rintro rfl
  exact absurd brings (by simp [Brings])

end Event

def event (queue : Queue) : Call → Event
  | .add key => .added key
  | .pop => .popped queue.pop.1

/-- The events of calls that are made on a queue one after the other. -/
def eventsFrom (queue : Queue) : List Call → List Event
  | [] => []
  | first :: rest => queue.event first :: (queue.call first).eventsFrom rest

/-- The events of a history of calls on a new queue. -/
def events (history : List Call) : List Event :=
  empty.eventsFrom history

/-- The last event about a key added it. -/
def Waits (history : List Call) (key : Key) : Prop :=
  Present (Event.Brings key) (Event.Takes key) (events history)

/-- The place of the first addition of a key since it was last given out. -/
def WaitsSince (history : List Call) (key : Key) (place : Nat) : Prop :=
  PresentSince (Event.Brings key) (Event.Takes key) (events history) place

theorem eventsFrom_append (queue : Queue) (front back : List Call) :
    queue.eventsFrom (front ++ back) =
      queue.eventsFrom front ++ (front.foldl call queue).eventsFrom back := by
  induction front generalizing queue with
  | nil => rfl
  | cons first rest ih => exact congrArg (queue.event first :: ·) (ih (queue.call first))

theorem events_append_singleton (history : List Call) (last : Call) :
    events (history ++ [last]) = events history ++ [(replay history).event last] :=
  eventsFrom_append empty history [last]

theorem replay_append_singleton (history : List Call) (last : Call) :
    replay (history ++ [last]) = (replay history).call last := by
  simp [replay]

/-- The events before a given one are those of the calls before it. -/
theorem exists_prefix_of_events {history : List Call} {earlier later : List Event} {event : Event}
    (whole : events history = earlier ++ event :: later) :
    ∃ front last, events front = earlier ∧ (replay front).event last = event := by
  induction history using List.reverseRecOn generalizing later with
  | nil => exact absurd (whole.symm) (by simp [events, eventsFrom])
  | append_singleton history last ih =>
    rw [events_append_singleton, Collection.append_singleton_eq_iff] at whole
    rcases whole with ⟨front, here, _⟩ | ⟨before, _, front⟩
    · exact ⟨history, last, front, here⟩
    · exact ih front

theorem mem_tail_iff {keys : List Key} (distinct : keys.Nodup) {key : Key} :
    key ∈ keys.tail ↔ key ∈ keys ∧ keys.head? ≠ some key := by
  cases keys with
  | nil => simp
  | cons oldest rest =>
    have absent := (List.nodup_cons.mp distinct).1
    rw [List.tail_cons, List.head?_cons, ne_eq, Option.some.injEq, List.mem_cons]
    constructor
    · intro later
      exact ⟨.inr later, fun same => absent (same ▸ later)⟩
    · rintro ⟨same | later, differs⟩
      · exact absurd same.symm differs
      · exact later

/-- The keys wait in the order in which they came. -/
theorem inOrderOfArrival_replay (history : List Call) :
    InOrderOfArrival Event.Brings Event.Takes (events history) (replay history).toList := by
  induction history using List.reverseRecOn with
  | nil => exact .nil
  | append_singleton history last ih =>
    have consistent := consistent_replay history
    rw [events_append_singleton, replay_append_singleton]
    cases last with
    | add key =>
      rw [call, toList_add consistent]
      refine ih.bring Event.not_takes_of_brings (fun other => ?_) fun other => ?_
      · rw [event, Event.Brings, Event.added.injEq, eq_comm]
      · simp [event, Event.Takes]
    | pop =>
      rw [call, toList_pop]
      refine ih.take Event.not_takes_of_brings (List.tail_sublist _) (fun other => ?_) fun other => ?_
      · rw [event, Event.Takes, Event.popped.injEq, pop_fst]
        exact mem_tail_iff consistent.distinct
      · simp [event, Event.Brings]

theorem mem_toList_replay_iff (history : List Call) (key : Key) :
    key ∈ (replay history).toList ↔ Waits history key :=
  (inOrderOfArrival_replay history).members key

/-- What a history of calls on a new queue promises to those who add keys and those who take them. -/
structure DeliversEachOnce (history : List Call) : Prop where
  /-- No key is twice in the order, and the set holds exactly the keys in it. -/
  in_step : (replay history).Consistent
  /-- The keys in the queue are those that were added and not given out since they were last added. -/
  waiting : ∀ key, key ∈ (replay history).toList ↔ Waits history key
  /-- A key that was added is given out later, or it still waits. -/
  not_lost : ∀ key earlier later, events history = earlier ++ .added key :: later →
    .popped (some key) ∈ later ∨ Waits history key
  /-- A key that is given out twice was added in between. -/
  not_repeated : ∀ key earlier between later,
    events history = earlier ++ .popped (some key) :: (between ++ .popped (some key) :: later) →
      .added key ∈ between
  /-- The next key to be given out is the one that has waited longest. -/
  oldest_first : ∀ key, (replay history).pop.1 = some key ↔
    ∃ place, WaitsSince history key place ∧
      ∀ other place', WaitsSince history other place' → place ≤ place'
  none_iff : (replay history).pop.1 = none ↔ ∀ key, ¬Waits history key
  /-- The listing goes by the time at which the keys began to wait. -/
  listed_in_order : (replay history).toList.Pairwise fun key other => ∀ place place',
    WaitsSince history key place → WaitsSince history other place' → place < place'
  size_eq : (replay history).size = {key | Waits history key}.ncard
  isEmpty_iff : (replay history).isEmpty = true ↔ ∀ key, ¬Waits history key

/-- A key that was given out waited before, so after being given out once it came again. -/
theorem added_between_pops {history : List Call} {key : Key} {earlier between later : List Event}
    (whole : events history =
      earlier ++ .popped (some key) :: (between ++ .popped (some key) :: later)) :
    .added key ∈ between := by
  have regrouped : events history =
      (earlier ++ .popped (some key) :: between) ++ .popped (some key) :: later := by
    simpa using whole
  obtain ⟨front, last, before, second⟩ := exists_prefix_of_events regrouped
  cases last with
  | add other => exact absurd second (by simp [event])
  | pop =>
    rw [event, Event.popped.injEq, pop_fst] at second
    have waits := (mem_toList_replay_iff front key).mp (List.mem_of_head? second)
    rw [Waits, before] at waits
    obtain ⟨added, member, rfl⟩ :=
      Collection.exists_brings_of_takes (Event.not_takes_of_brings key) rfl waits
    exact member

theorem toList_eq_nil_iff (history : List Call) :
    (replay history).toList = [] ↔ ∀ key, ¬Waits history key := by
  rw [List.eq_nil_iff_forall_not_mem]
  exact forall_congr' fun key => not_congr (mem_toList_replay_iff history key)

/-- Every history of calls on a new queue keeps the promise, and so at every point on the way. -/
theorem delivers_each_once (history : List Call) : DeliversEachOnce history := by
  have ordered := inOrderOfArrival_replay history
  refine ⟨consistent_replay history, ordered.members, fun key earlier later whole => ?_,
    fun key earlier between later => added_between_pops, fun key => ?_, ?_, ordered.ascending,
    ordered.length_eq_ncard Event.not_takes_of_brings, ?_⟩
  · by_cases given : .popped (some key) ∈ later
    · exact .inl given
    · rw [Waits, whole]
      refine .inr (Collection.present_of_brings rfl fun after member taken => ?_)
      exact given (taken ▸ member)
  · rw [pop_fst]
    exact ordered.head?_eq_some_iff Event.not_takes_of_brings key
  · rw [pop_fst, List.head?_eq_none_iff]
    exact toList_eq_nil_iff history
  · rw [isEmpty, size, beq_iff_eq, List.length_eq_zero_iff]
    exact toList_eq_nil_iff history

end CertLifecycle.Queue
