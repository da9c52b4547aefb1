import CertLifecycle.Fixture.Basic
import CertLifecycle.Proofs.Store.Filtering
import CertLifecycle.Proofs.Store.OrderedMap

/-!
A store that goes out of service and comes back. Meanwhile every question for objects is refused with the
reason, and nothing else is different: what is stored, and what a removal gives back, is decided by the latest
insertion or removal at a place, in service or not. Main result: `outages_lose_nothing`, which also says that a
run without its outages, and without what was refused during them, answers all that is left in the same way.
-/

namespace CertLifecycle

open Collection (Latest not_latest_nil latest_append_singleton)
open Resource (placeOf)

variable {ρ ι : Type}

namespace Store

/-- A call to a store. -/
inductive Call (ρ ι : Type) where
  | write (change : Write ρ)
  | list (scope : String) (selector : LabelSelector)
  | get (scope name : String)
  | size
  | matching (scope : String) (selector : LabelSelector) (answer : ι → ρ → Bool)
    (predicate : Predicate ι)
  | matchingAll (scope : String) (selector : LabelSelector) (answer : ι → ρ → Bool)
    (first : Predicate ι) (others : List (Predicate ι))

namespace Call

/-- Whether a call puts the store out of service or back into service. -/
def switches : Call ρ ι → Bool
  | .write (.setOutage _) => true
  | _ => false

/-- Whether a call inserts or removes an object. -/
def changes : Call ρ ι → Bool
  | .write (.insert _) | .write (.remove ..) => true
  | _ => false

/-- The write that a call makes, if it makes one. -/
def write? : Call ρ ι → Option (Write ρ)
  | .write change => some change
  | .list .. | .get .. | .size | .matching .. | .matchingAll .. => none

/-- Whether a call asks for objects, which a store can answer only in service. -/
def asks : Call ρ ι → Bool
  | .list .. | .get .. | .matching .. | .matchingAll .. => true
  | .write _ | .size => false

end Call

/-- What a call gives back. A filtered listing also says what was tested and what was reported. -/
inductive Answer (ρ ι : Type) where
  | done
  | removed (object : Option ρ)
  | listed (objects : Except StoreError (List ρ))
  | got (object : Except StoreError ρ)
  | counted (size : Nat)
  | filtered (objects : Logged (Filtered ρ ι))

/-- A call with its answer, and the reason if the store was out of service. -/
structure Moment (ρ ι : Type) where
  call : Call ρ ι
  outage : Option String
  answer : Answer ρ ι

/-- Whether a moment is none of those that make up an outage: the switches, and what is refused. -/
def Moment.stays (moment : Moment ρ ι) : Bool :=
  !moment.call.switches && (!moment.call.asks || moment.outage.isNone)

variable [Resource ρ]

def answer (store : Store ρ) : Call ρ ι → Answer ρ ι
  | .write (.remove scope name) => .removed (store.remove scope name).1
  | .write (.insert _) | .write (.setOutage _) => .done
  | .list scope selector => .listed (store.list scope selector)
  | .get scope name => .got (store.get scope name)
  | .size => .counted store.size
  | .matching scope selector answer predicate =>
    .filtered (store.lister.matching scope selector answer predicate)
  | .matchingAll scope selector answer first others =>
    .filtered (store.lister.matchingAll scope selector answer first others)

def call (store : Store ρ) : Call ρ ι → Store ρ
  | .write change => store.write change
  | .list .. | .get .. | .size | .matching .. | .matchingAll .. => store

/-- The store after some calls. -/
def run (store : Store ρ) (calls : List (Call ρ ι)) : Store ρ :=
  calls.foldl call store

/-- The writes of a store that starts with some objects: those objects, and what calls wrote. -/
def history (initial : List ρ) (calls : List (Call ρ ι)) : List (Write ρ) :=
  initial.map .insert ++ calls.filterMap Call.write?

/-- What happens at each of some calls, made one after the other. -/
def moments (store : Store ρ) : List (Call ρ ι) → List (Moment ρ ι)
  | [] => []
  | first :: rest => ⟨first, store.outage, store.answer first⟩ :: (store.call first).moments rest

theorem run_append_singleton (store : Store ρ) (calls : List (Call ρ ι)) (last : Call ρ ι) :
    store.run (calls ++ [last]) = (store.run calls).call last := by
  simp [run]

theorem run_eq_foldl_write (store : Store ρ) (calls : List (Call ρ ι)) :
    store.run calls = (calls.filterMap Call.write?).foldl write store := by
  induction calls generalizing store with
  | nil => rfl
  | cons first rest ih =>
    -- A call that writes nothing leaves the store as it is.
    cases first <;> exact ih _

/-- Only the writes among the calls matter to the store. -/
theorem run_eq_replay (initial : List ρ) (calls : List (Call ρ ι)) :
    (ofList initial).run calls = replay (history initial calls) := by
  rw [history, replay_from, run_eq_foldl_write]

/-- A removal answers with the object that the latest write to the place put there, whether or not the
store is in service. -/
theorem answer_remove_iff (initial : List ρ) (calls : List (Call ρ ι)) (scope name : String)
    (object : ρ) :
    ((ofList initial).run calls).answer (.write (.remove scope name) : Call ρ ι) =
        .removed (some object) ↔
      Latest (Write.Touches (scope, name)) (history initial calls) (.insert object) := by
  rw [run_eq_replay, ← find?_replay_eq_some_iff, answer, Answer.removed.injEq]
  rfl

/-- Only a switch decides about the service. -/
theorem outage_call (store : Store ρ) (last : Call ρ ι) (reason : String) :
    (store.call last).outage = some reason ↔
      last.switches = true ∧ last = .write (.setOutage (some reason)) ∨
        ¬last.switches = true ∧ store.outage = some reason := by
  rcases last with (_ | _ | reason') | _ | _ | _ | _ | _ <;>
    simp [call, write, insert, remove, setOutage, Call.switches]

/-- The store is out of service exactly while the latest switch set a reason, and that is the reason. -/
theorem outage_run_iff (initial : List ρ) (calls : List (Call ρ ι)) (reason : String) :
    ((ofList initial).run calls).outage = some reason ↔
      Latest (Call.switches · = true) calls (.write (.setOutage (some reason))) := by
  induction calls using List.reverseRecOn with
  | nil =>
    refine iff_of_false ?_ (not_latest_nil _ _)
    simp [run, outage_ofList]
  | append_singleton calls last ih =>
    rw [run_append_singleton, latest_append_singleton, outage_call, ih, eq_comm (a := last)]

/-- The calls that a store out of service refuses, each with the reason and before anything is tested. -/
structure Refuses (store : Store ρ) (ι : Type) (reason : String) : Prop where
  list : ∀ scope selector, store.list scope selector = .error (.unavailable reason)
  get : ∀ scope name, store.get scope name = .error (.unavailable reason)
  matching : ∀ scope selector (answer : ι → ρ → Bool) predicate,
    store.lister.matching scope selector answer predicate =
      ⟨⟨.error (.unavailable reason), []⟩, []⟩
  matchingAll : ∀ scope selector (answer : ι → ρ → Bool) first others,
    store.lister.matchingAll scope selector answer first others =
      ⟨⟨.error (.unavailable reason), []⟩, []⟩

theorem refuses_in_outage {store : Store ρ} {reason : String} (outage : store.outage = some reason) :
    store.Refuses ι reason := by
  have listing := list_in_outage outage
  have matching (scope : String) (selector : LabelSelector) (answer : ι → ρ → Bool)
      (predicate : Predicate ι) : store.lister.matching scope selector answer predicate =
        ⟨⟨.error (.unavailable reason), []⟩, []⟩ :=
    Lister.matching_of_error (listing scope selector) answer predicate
  refine ⟨listing, ?_, matching, ?_⟩
  · intro scope name
    rw [Store.get, checkService_in_outage outage]
    rfl
  · intro scope selector answer first others
    exact matching scope selector answer (.conjunction first others)

/-- A call does to the objects what it does in a store that has the same objects and is in service. -/
theorem objects_call {store store' : Store ρ} (same : store'.objects = store.objects)
    (last : Call ρ ι) : (store'.call last).objects = (store.call last).objects := by
  rcases last with (_ | _ | _) | _ | _ | _ | _ | _ <;>
    simp [call, write, insert, remove, setOutage, same]

theorem objects_call_of_not_changes {store : Store ρ} {last : Call ρ ι} (keeps : last.changes = false) :
    (store.call last).objects = store.objects := by
  rcases last with (_ | _ | _) | _ | _ | _ | _ | _ <;> simp_all [call, write, setOutage, Call.changes]

theorem outage_call_of_not_switches {store : Store ρ} {last : Call ρ ι}
    (keeps : last.switches = false) : (store.call last).outage = store.outage := by
  rcases last with (_ | _ | _) | _ | _ | _ | _ | _ <;>
    simp_all [call, write, insert, remove, Call.switches]

theorem answer_of_not_asks {store store' : Store ρ} (same : store'.objects = store.objects)
    {call : Call ρ ι} (free : call.asks = false) : store'.answer call = store.answer call := by
  rcases call with (_ | _ | _) | _ | _ | _ | _ | _ <;>
    simp_all [answer, remove, size, Call.asks]

/-- What a call answers at a moment that stays, it answers in a store that was never out of service. -/
theorem answer_of_stays {store store' : Store ρ} (same : store'.objects = store.objects)
    (service : store'.outage = none) {call : Call ρ ι}
    (stays : Moment.stays ⟨call, store.outage, store.answer call⟩ = true) :
    store'.answer call = store.answer call := by
  simp only [Moment.stays, Bool.and_eq_true, Bool.not_eq_true', Bool.or_eq_true,
    Option.isNone_iff_eq_none] at stays
  rcases stays.2 with free | up
  · exact answer_of_not_asks same free
  · -- Both are in service and have the same objects, so they are one store.
    have one : store' = store := by
      cases store
      cases store'
      simp_all
    rw [one]

theorem objects_run_filter_changes (store store' : Store ρ) (same : store'.objects = store.objects)
    (calls : List (Call ρ ι)) :
    (store'.run (calls.filter Call.changes)).objects = (store.run calls).objects := by
  induction calls generalizing store store' with
  | nil => exact same
  | cons first rest ih =>
    by_cases changes : first.changes = true
    · rw [List.filter_cons_of_pos changes]
      exact ih _ _ (objects_call same first)
    · rw [List.filter_cons_of_neg changes]
      refine ih _ _ ?_
      rw [objects_call_of_not_changes (Bool.eq_false_iff.mpr changes)]
      exact same

/-- The calls that are left when the outages are taken out of what happened; besides, any others that
neither insert nor remove an object may be left out. -/
def Moment.remains (keep : Moment ρ ι → Bool) (moment : Moment ρ ι) : Bool :=
  moment.stays && (moment.call.changes || keep moment)

theorem answers_remaining (keep : Moment ρ ι → Bool) (store store' : Store ρ)
    (same : store'.objects = store.objects) (service : store'.outage = none)
    (calls : List (Call ρ ι)) :
    (store'.moments (((store.moments calls).filter (Moment.remains keep)).map Moment.call)).map
        Moment.answer =
      ((store.moments calls).filter (Moment.remains keep)).map Moment.answer := by
  induction calls generalizing store store' with
  | nil => rfl
  | cons first rest ih =>
    rw [moments]
    by_cases remains : Moment.remains keep ⟨first, store.outage, store.answer first⟩ = true
    · have stays := (Bool.and_eq_true_iff.mp remains).1
      have plain : first.switches = false := by
        simpa using (Bool.and_eq_true_iff.mp stays).1
      rw [List.filter_cons_of_pos remains, List.map_cons, List.map_cons, moments, List.map_cons]
      congr 1
      · exact answer_of_stays same service stays
      · refine ih _ _ (objects_call same first) ?_
        rw [outage_call_of_not_switches plain, service]
    · rw [List.filter_cons_of_neg remains]
      refine ih _ _ ?_ service
      -- What is left out does not change the objects: every change remains.
      have keeps : first.changes = false := by
        rcases first with (_ | _ | _) | _ | _ | _ | _ | _ <;>
          simp_all [Moment.remains, Moment.stays, Call.changes, Call.switches, Call.asks]
      rw [objects_call_of_not_changes keeps]
      exact same

/-- After any calls to a store that began with some objects: while a reason is set, every question for
objects is refused with the reason that was set last, whatever is asked, and no predicate is tested; in
service or not, an object is stored exactly if the latest write to its place inserted it, and that is when a
removal gives it back; the objects are those that insertions and removals alone would have left; and if the
switches and the refused questions are left out, and perhaps more that changes nothing, the other calls have
the same answers. -/
theorem outages_lose_nothing (initial : List ρ) (calls : List (Call ρ ι)) :
    (∀ reason, Latest (Call.switches · = true) calls (.write (.setOutage (some reason))) →
      ((ofList initial).run calls).Refuses ι reason) ∧
    (∀ object, object ∈ ((ofList initial).run calls).objects ↔
      Latest (Write.Touches (placeOf object)) (history initial calls) (.insert object)) ∧
    (∀ scope name object,
      ((ofList initial).run calls).answer (.write (.remove scope name) : Call ρ ι) =
          .removed (some object) ↔
        Latest (Write.Touches (scope, name)) (history initial calls) (.insert object)) ∧
    ((ofList initial).run calls).objects =
      ((ofList initial).run (calls.filter Call.changes)).objects ∧
    ∀ keep : Moment ρ ι → Bool,
      let left := ((ofList initial).moments calls).filter (Moment.remains keep)
      ((ofList initial).moments (left.map Moment.call)).map Moment.answer =
        left.map Moment.answer := by
  refine ⟨fun reason latest => ?_, fun object => ?_, answer_remove_iff initial calls, ?_,
    fun keep => ?_⟩
  · exact refuses_in_outage ((outage_run_iff initial calls reason).mpr latest)
  · rw [run_eq_replay]
    exact mem_replay_iff _ object
  · exact (objects_run_filter_changes _ _ rfl calls).symm
  · exact answers_remaining keep _ _ rfl (outage_ofList initial) calls

def web : Certificate := (Fixture.make "web" "web-tls").certificate

def api : Certificate := (Fixture.make "api" "api-tls").certificate

/-- The reason is set a second time, then one certificate is inserted and another one is removed. -/
def underOutage : List (Call Certificate Unit) :=
  [.write (.setOutage (some "syncing")), .write (.setOutage (some "down")), .write (.insert api),
    .write (.remove "default" "web")]

/-- The removal gives its certificate back, and it is gone. The other one is there, would be given back by a
removal, and cannot be read. -/
theorem underOutage_refused :
    Latest (Call.switches · = true) underOutage (.write (.setOutage (some "down"))) ∧
      ((ofList [web]).moments underOutage).map Moment.answer = [.done, .done, .done, .removed (some web)] ∧
      ((ofList [web]).run underOutage).objects = [api] ∧
      ((ofList [web]).run underOutage).answer (.write (.remove "default" "api") : Call Certificate Unit) =
        .removed (some api) ∧
      ((ofList [web]).run underOutage).get "default" "api" = .error (.unavailable "down") := by
  have latest : Latest (Call.switches · = true) underOutage (.write (.setOutage (some "down"))) := by
    refine ⟨[_], [_, _], rfl, rfl, ?_⟩
    simp [Call.switches]
  have inserted : Latest (Write.Touches ("default", "api")) (history [web] underOutage) (.insert api) := by
    refine ⟨[_, _, _], [_], rfl, rfl, ?_⟩
    simp [Write.Touches]
  obtain ⟨refused, _, removed, kept, _⟩ := outages_lose_nothing [web] underOutage
  refine ⟨latest, rfl, ?_, (removed "default" "api" api).mpr inserted,
    (refused "down" latest).get "default" "api"⟩
  rw [kept]
  decide

end Store

end CertLifecycle
