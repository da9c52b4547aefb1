import CertLifecycle.Proofs.Collection.History
import CertLifecycle.Store.Basic
import Mathlib.Data.List.Nodup

/-!
What a store holds after a history of writes. No two objects share a namespace and a name. Main results:
`mem_replay_iff`, an object is stored exactly if the latest write to its place put it there, and
`outage_replay_iff`, the store is out of service for the reason that was set last.
-/

namespace CertLifecycle

open Collection (Latest not_latest_nil latest_append_singleton)

variable {ρ : Type} [Resource ρ]

namespace Resource

def placeOf (object : ρ) : String × String :=
  ((metaOf object).scope, (metaOf object).name)

theorem isAt_iff {scope name : String} {object : ρ} :
    isAt scope name object = true ↔ placeOf object = (scope, name) := by
  simp [isAt, placeOf]

theorem isAt_placeOf {first second : ρ} :
    isAt (metaOf first).scope (metaOf first).name second = true ↔
      placeOf second = placeOf first :=
  isAt_iff

end Resource

open Resource (placeOf isAt isAt_iff isAt_placeOf)

namespace Store

/-- No two objects are known by the same namespace and name. -/
def Keyed (objects : List ρ) : Prop :=
  (objects.map placeOf).Nodup

/-- Storing an object adds its place at the end unless it is taken. -/
theorem map_placeOf_place (object : ρ) (objects : List ρ) :
    (place object objects).map placeOf =
      if placeOf object ∈ objects.map placeOf then objects.map placeOf
      else objects.map placeOf ++ [placeOf object] := by
  induction objects with
  | nil => simp [place]
  | cons first rest ih =>
    rw [place]
    by_cases taken : placeOf first = placeOf object
    · simp [isAt_placeOf.mpr taken, taken]
    · have other : ¬isAt (Resource.metaOf object).scope (Resource.metaOf object).name first := by
        rwa [isAt_placeOf]
      have differs : placeOf object ≠ placeOf first := fun equal => taken equal.symm
      simp only [if_neg other, List.map_cons, ih, List.mem_cons, differs, false_or]
      split <;> rfl

theorem keyed_place (object : ρ) {objects : List ρ} (keyed : Keyed objects) :
    Keyed (place object objects) := by
  rw [Keyed, map_placeOf_place]
  split
  next => exact keyed
  next absent =>
    -- The place goes to the end only where it is new.
    refine List.nodup_append'.mpr ⟨keyed, List.nodup_singleton _, ?_⟩
    intro place old new
    rw [List.mem_singleton.mp new] at old
    exact absent old

/-- Storing an object leaves the objects of other places and no other object of its own. -/
theorem mem_place (object other : ρ) {objects : List ρ} (keyed : Keyed objects) :
    other ∈ place object objects ↔
      other = object ∨ placeOf other ≠ placeOf object ∧ other ∈ objects := by
  induction objects with
  | nil => simp [place]
  | cons first rest ih =>
    obtain ⟨free, tail⟩ := List.nodup_cons.mp keyed
    rw [place]
    by_cases taken : placeOf first = placeOf object
    -- The first object gives way, and no later one has its place.
    · have absent : other ∈ rest → placeOf other ≠ placeOf object := fun member same =>
        free (List.mem_map.mpr ⟨other, member, same.trans taken.symm⟩)
      simp only [isAt_placeOf.mpr taken, if_true, List.mem_cons]
      constructor
      · rintro (new | old)
        · exact .inl new
        · exact .inr ⟨absent old, .inr old⟩
      · rintro (new | ⟨apart, rfl | old⟩)
        · exact .inl new
        · exact absurd taken apart
        · exact .inr old
    · have different : ¬isAt (Resource.metaOf object).scope (Resource.metaOf object).name first := by
        rwa [isAt_placeOf]
      simp only [if_neg different, List.mem_cons, ih tail]
      constructor
      · rintro (rfl | new | ⟨apart, old⟩)
        · exact .inr ⟨taken, .inl rfl⟩
        · exact .inl new
        · exact .inr ⟨apart, .inr old⟩
      · rintro (new | ⟨apart, rfl | old⟩)
        · exact .inr (.inl new)
        · exact .inl rfl
        · exact .inr (.inr ⟨apart, old⟩)

/-- Removing from a place removes every object there, for there is at most one. -/
theorem eraseP_isAt (scope name : String) {objects : List ρ} (keyed : Keyed objects) :
    objects.eraseP (isAt scope name) = objects.filter fun object => !isAt scope name object := by
  induction objects with
  | nil => rfl
  | cons first rest ih =>
    obtain ⟨free, tail⟩ := List.nodup_cons.mp keyed
    -- Only the first object found is erased, so the rest must have none at the place.
    by_cases here : isAt scope name first = true
    · have elsewhere : ∀ object ∈ rest, (!isAt scope name object) = true := by
        intro object member
        rw [Bool.not_eq_true', ← Bool.not_eq_true, isAt_iff]
        intro same
        exact free (List.mem_map.mpr ⟨object, member, same.trans (isAt_iff.mp here).symm⟩)
      simp [here, List.filter_eq_self.mpr elsewhere]
    · simp [here, ih tail]

theorem keyed_eraseP (scope name : String) {objects : List ρ} (keyed : Keyed objects) :
    Keyed (objects.eraseP (isAt scope name)) :=
  keyed.sublist (List.eraseP_sublist.map placeOf)

omit [Resource ρ] in
theorem checkService_in_service {store : Store ρ} (service : store.outage = none) :
    store.checkService = .ok () := by
  rw [checkService, service]

omit [Resource ρ] in
theorem checkService_in_outage {store : Store ρ} {reason : String}
    (outage : store.outage = some reason) : store.checkService = .error (.unavailable reason) := by
  rw [checkService, outage]

theorem list_in_service {store : Store ρ} (service : store.outage = none) (scope : String)
    (selector : LabelSelector) :
    store.list scope selector = .ok ((store.objects.filter (Resource.liesIn scope)).filter
      fun object => selector.selects (Resource.metaOf object).labels) := by
  rw [list, checkService_in_service service]
  rfl

theorem list_in_outage {store : Store ρ} {reason : String} (outage : store.outage = some reason)
    (scope : String) (selector : LabelSelector) :
    store.list scope selector = .error (.unavailable reason) := by
  rw [list, checkService_in_outage outage]
  rfl

theorem ofList_append_singleton (initial : List ρ) (last : ρ) :
    ofList (initial ++ [last]) = (ofList initial).insert last :=
  List.foldl_concat ..

theorem outage_ofList (initial : List ρ) : (ofList initial).outage = none := by
  induction initial using List.reverseRecOn with
  | nil => rfl
  | append_singleton initial last ih => rw [ofList_append_singleton, insert, ih]

/-- A call that changes a store. -/
inductive Write (ρ : Type) where
  | insert (object : ρ)
  | remove (scope name : String)
  | setOutage (reason : Option String)

namespace Write

/-- Whether a write decides what is stored in a place. -/
def Touches (place : String × String) : Write ρ → Prop
  | .insert object => placeOf object = place
  | .remove scope name => (scope, name) = place
  | .setOutage _ => False

omit [Resource ρ] in
def Switches : Write ρ → Prop
  | .setOutage _ => True
  | _ => False

end Write

def write (store : Store ρ) : Write ρ → Store ρ
  | .insert object => store.insert object
  | .remove scope name => (store.remove scope name).2
  | .setOutage reason => store.setOutage reason

/-- The store after a history of writes to an empty one. -/
def replay (history : List (Write ρ)) : Store ρ :=
  history.foldl write {}

theorem replay_append_singleton (history : List (Write ρ)) (last : Write ρ) :
    replay (history ++ [last]) = (replay history).write last := by
  simp [replay]

theorem keyed_write {store : Store ρ} (keyed : Keyed store.objects) (last : Write ρ) :
    Keyed (store.write last).objects := by
  cases last with
  | insert object => exact keyed_place object keyed
  | remove scope name => exact keyed_eraseP scope name keyed
  | setOutage reason => exact keyed

theorem keyed_replay (history : List (Write ρ)) : Keyed (replay history).objects := by
  induction history using List.reverseRecOn with
  | nil => exact List.nodup_nil
  | append_singleton history last ih =>
    rw [replay_append_singleton]
    exact keyed_write ih last

/-- What one write does to the objects: it decides about its own place only. -/
theorem mem_write {store : Store ρ} (keyed : Keyed store.objects) (last : Write ρ) (object : ρ) :
    object ∈ (store.write last).objects ↔
      last = .insert object ∨ ¬last.Touches (placeOf object) ∧ object ∈ store.objects := by
  cases last with
  | insert new =>
    change object ∈ place new store.objects ↔ _
    rw [mem_place new object keyed, Write.insert.injEq, eq_comm (a := object) (b := new),
      Write.Touches, ne_comm]
  | remove scope name =>
    change object ∈ store.objects.eraseP (isAt scope name) ↔ _
    rw [eraseP_isAt scope name keyed, List.mem_filter, Bool.not_eq_true', ← Bool.not_eq_true,
      isAt_iff]
    simp [Write.Touches, and_comm, eq_comm]
  | setOutage reason =>
    simp [write, setOutage, Write.Touches]

/-- An object is stored exactly if the latest write to its place put it there. -/
theorem mem_replay_iff (history : List (Write ρ)) (object : ρ) :
    object ∈ (replay history).objects ↔
      Latest (Write.Touches (placeOf object)) history (.insert object) := by
  induction history using List.reverseRecOn with
  | nil =>
    refine iff_of_false ?_ (not_latest_nil _ _)
    simp [replay]
  | append_singleton history last ih =>
    rw [replay_append_singleton, mem_write (keyed_replay history), latest_append_singleton, ih]
    constructor
    · rintro (rfl | kept)
      · exact .inl ⟨rfl, rfl⟩
      · exact .inr kept
    · rintro (⟨_, rfl⟩ | kept)
      · exact .inl rfl
      · exact .inr kept

/-- The store is out of service exactly while the latest switch set a reason. -/
theorem outage_replay_iff (history : List (Write ρ)) (reason : String) :
    (replay history).outage = some reason ↔
      Latest Write.Switches history (.setOutage (some reason)) := by
  induction history using List.reverseRecOn with
  | nil =>
    refine iff_of_false ?_ (not_latest_nil _ _)
    simp [replay]
  | append_singleton history last ih =>
    rw [replay_append_singleton, latest_append_singleton, ← ih]
    cases last <;> simp [write, insert, remove, setOutage, Write.Switches, eq_comm]

end Store

end CertLifecycle
