import CertLifecycle.Proofs.Collection.Arrival
import CertLifecycle.Proofs.Store.History

/-!
A store is a map from places to objects that remembers the order in which places were filled. Main
result: `refines_ordered_map`, whatever was put into it, removed from it and however often it was out of
service, each read gives what the history of writes says.
-/

namespace CertLifecycle

open Collection (Latest latest_map Present PresentSince InOrderOfArrival)

variable {ρ : Type} [Resource ρ]

open Resource (placeOf metaOf isAt isAt_iff)

namespace Store

namespace Write

def Brings (place : String × String) (write : Write ρ) : Prop :=
  ∃ object, write = .insert object ∧ placeOf object = place

omit [Resource ρ] in
def Takes (place : String × String) (write : Write ρ) : Prop :=
  write = .remove place.1 place.2

theorem not_takes_of_brings (place : String × String) (write : Write ρ)
    (brings : write.Brings place) : ¬write.Takes place := by
  obtain ⟨object, rfl, _⟩ := brings
  simp [Takes]

theorem touches_iff {place : String × String} {write : Write ρ} :
    write.Touches place ↔ write.Brings place ∨ write.Takes place := by
  cases write with
  | insert object => simp [Touches, Brings, Takes]
  | remove scope name => simp [Touches, Brings, Takes, Prod.ext_iff]
  | setOutage reason => simp [Touches, Brings, Takes]

end Write

/-- A place is filled exactly if the latest write to it put an object there. -/
theorem present_iff {history : List (Write ρ)} {place : String × String} :
    Present (Write.Brings place) (Write.Takes place) history ↔
      ∃ object, Latest (Write.Touches place) history (.insert object) := by
  have relevant : (fun write : Write ρ => write.Brings place ∨ write.Takes place) =
      Write.Touches place := funext fun _ => propext Write.touches_iff.symm
  unfold Present
  rw [relevant]
  constructor
  · rintro ⟨_, ⟨object, rfl, _⟩, latest⟩
    exact ⟨object, latest⟩
  · rintro ⟨object, latest⟩
    have ⟨_, _, _, touches, _⟩ := latest
    exact ⟨.insert object, ⟨object, rfl, touches⟩, latest⟩

/-- The places of the stored objects stand in the order in which they were filled. -/
theorem inOrderOfArrival_replay (history : List (Write ρ)) :
    InOrderOfArrival Write.Brings Write.Takes history ((replay history).objects.map placeOf) := by
  induction history using List.reverseRecOn with
  | nil => exact .nil
  | append_singleton history last ih =>
    have keyed := keyed_replay history
    rw [replay_append_singleton]
    cases last with
    | insert object =>
      change InOrderOfArrival _ _ _ ((place object (replay history).objects).map placeOf)
      rw [map_placeOf_place]
      refine ih.bring Write.not_takes_of_brings (fun filled => ?_) fun filled => ?_
      · simp [Write.Brings, eq_comm]
      · simp [Write.Takes]
    | remove scope name =>
      change InOrderOfArrival _ _ _ (((replay history).objects.eraseP (isAt scope name)).map placeOf)
      refine ih.take Write.not_takes_of_brings (List.eraseP_sublist.map placeOf) (fun filled => ?_)
        fun filled => ?_
      · rw [eraseP_isAt scope name keyed]
        simp only [List.mem_map, List.mem_filter, Bool.not_eq_true', ← Bool.not_eq_true, isAt_iff,
          Write.Takes, Write.remove.injEq]
        constructor
        · rintro ⟨object, ⟨stored, apart⟩, rfl⟩
          exact ⟨⟨object, stored, rfl⟩, fun same => apart (Prod.ext same.1.symm same.2.symm)⟩
        · rintro ⟨⟨object, stored, rfl⟩, apart⟩
          refine ⟨object, ⟨stored, fun same => apart ?_⟩, rfl⟩
          rw [same]
          exact ⟨rfl, rfl⟩
      · simp [Write.Brings]
    | setOutage reason =>
      refine ih.take Write.not_takes_of_brings (List.Sublist.refl _) (fun filled => ?_) fun filled => ?_
      · simp [write, setOutage, Write.Takes]
      · simp [Write.Brings]

theorem find?_isAt_eq_some_iff {objects : List ρ} (keyed : Keyed objects) {scope name : String}
    {object : ρ} :
    objects.find? (isAt scope name) = some object ↔
      object ∈ objects ∧ placeOf object = (scope, name) := by
  constructor
  · intro found
    exact ⟨List.mem_of_find?_eq_some found, isAt_iff.mp (List.find?_some found)⟩
  · rintro ⟨stored, here⟩
    cases found : objects.find? (isAt scope name) with
    | none => exact absurd (isAt_iff.mpr here) (List.find?_eq_none.mp found object stored)
    | some other =>
      -- Two objects of one place are one object.
      have there := isAt_iff.mp (List.find?_some found)
      have known := List.mem_of_find?_eq_some found
      rw [List.inj_on_of_nodup_map keyed known stored (there.trans here.symm)]

/-- The search finds what the latest write to a place put there. -/
theorem find?_replay_eq_some_iff (history : List (Write ρ)) (scope name : String) (object : ρ) :
    (replay history).objects.find? (isAt scope name) = some object ↔
      Latest (Write.Touches (scope, name)) history (.insert object) := by
  rw [find?_isAt_eq_some_iff (keyed_replay history), mem_replay_iff]
  constructor
  · rintro ⟨latest, here⟩
    rwa [here] at latest
  · intro latest
    have ⟨_, _, _, touches, _⟩ := latest
    have here : placeOf object = (scope, name) := touches
    rw [here]
    exact ⟨latest, rfl⟩

/-- What a store answers is what the writes to it say. -/
structure RefinesOrderedMap (past : List (Write ρ)) (store : Store ρ) : Prop where
  /-- No two stored objects have one place. -/
  keyed : Keyed store.objects
  /-- The store is out of service for the reason that was set last, and lists nothing meanwhile. -/
  outage : ∀ reason, store.outage = some reason ↔
    Latest Write.Switches past (.setOutage (some reason))
  refused : ∀ reason, store.outage = some reason →
    ∀ scope selector, store.list scope selector = .error (.unavailable reason)
  /-- A read gives the object that was put into a place last, unless it was removed since. -/
  get_found : store.outage = none → ∀ scope name object, store.get scope name = .ok object ↔
    Latest (Write.Touches (scope, name)) past (.insert object)
  get_missing : store.outage = none → ∀ scope name,
    ¬Present (Write.Brings (scope, name)) (Write.Takes (scope, name)) past →
      store.get scope name = .error (.notFound (Resource.kind ρ) scope name)
  /-- The full listing has each object once, in the order in which their places were filled, and every
  other listing is the part of it that was asked for. -/
  listed : store.outage = none → ∃ all, store.list "" .everything = .ok all ∧ all.Nodup ∧
    (∀ object, object ∈ all ↔ Latest (Write.Touches (placeOf object)) past (.insert object)) ∧
    (all.Pairwise fun object other => ∀ i j,
      PresentSince (Write.Brings (placeOf object)) (Write.Takes (placeOf object)) past i →
      PresentSince (Write.Brings (placeOf other)) (Write.Takes (placeOf other)) past j → i < j) ∧
    ∀ scope selector, store.list scope selector = .ok (all.filter fun object =>
      (scope = "" ∨ (metaOf object).scope = scope) ∧ selector.selects (metaOf object).labels)
  size_eq : store.size = {place | Present (Write.Brings place) (Write.Takes place) past}.ncard
  /-- A removal gives back the object of the place, and changes nothing if there is none. -/
  removed : ∀ scope name, (∀ object, (store.remove scope name).1 = some object ↔
      Latest (Write.Touches (scope, name)) past (.insert object)) ∧
    ((store.remove scope name).1 = none → (store.remove scope name).2 = store)

theorem get_in_service {store : Store ρ} (service : store.outage = none) (scope name : String) :
    store.get scope name = match store.objects.find? (isAt scope name) with
      | some object => .ok object
      | none => .error (.notFound (Resource.kind ρ) scope name) := by
  rw [get, checkService_in_service service]
  rfl

theorem list_everything {store : Store ρ} (service : store.outage = none) :
    store.list "" .everything = .ok store.objects := by
  rw [list_in_service service]
  simp [Resource.liesIn, LabelSelector.selects, LabelSelector.everything]

theorem list_eq_filter {store : Store ρ} (service : store.outage = none) (scope : String)
    (selector : LabelSelector) :
    store.list scope selector = .ok (store.objects.filter fun object =>
      (scope = "" ∨ (metaOf object).scope = scope) ∧ selector.selects (metaOf object).labels) := by
  rw [list_in_service service, List.filter_filter]
  refine congrArg Except.ok (List.filter_congr fun object _ => ?_)
  rw [Bool.eq_iff_iff]
  simp [Resource.liesIn, and_comm]

theorem remove_absent {store : Store ρ} {scope name : String}
    (absent : (store.remove scope name).1 = none) : (store.remove scope name).2 = store := by
  have free : ∀ object ∈ store.objects, ¬isAt scope name object := List.find?_eq_none.mp absent
  rw [remove]
  dsimp only
  rw [List.eraseP_of_forall_not free]

theorem refines_replay (history : List (Write ρ)) : RefinesOrderedMap history (replay history) := by
  have keyed := keyed_replay history
  have ordered := inOrderOfArrival_replay history
  refine ⟨keyed, outage_replay_iff history, fun reason outage => list_in_outage outage,
    fun service scope name object => ?_, fun service scope name absent => ?_, fun service => ?_, ?_,
    fun scope name => ⟨find?_replay_eq_some_iff history scope name, remove_absent⟩⟩
  · rw [get_in_service service, ← find?_replay_eq_some_iff]
    cases (replay history).objects.find? (isAt scope name) <;> simp
  · cases found : (replay history).objects.find? (isAt scope name) with
    | none => rw [get_in_service service, found]
    | some object =>
      have latest := (find?_replay_eq_some_iff history scope name object).mp found
      exact absurd (present_iff.mpr ⟨object, latest⟩) absent
  · refine ⟨_, list_everything service, keyed.of_map placeOf, mem_replay_iff history, ?_,
      list_eq_filter service⟩
    exact List.pairwise_map.mp ordered.ascending
  · rw [size, ← ordered.length_eq_ncard Write.not_takes_of_brings, List.length_map]

/-- The first objects of a store are its first writes. -/
theorem replay_from (initial : List ρ) (history : List (Write ρ)) :
    replay (initial.map .insert ++ history) = history.foldl write (ofList initial) := by
  rw [replay, List.foldl_append, List.foldl_map]
  rfl

/-- Whatever is written to a store that starts with some objects, it answers like the map of its
writes. -/
theorem refines_ordered_map (initial : List ρ) (history : List (Write ρ)) :
    RefinesOrderedMap (initial.map .insert ++ history) (history.foldl write (ofList initial)) := by
  rw [← replay_from]
  exact refines_replay _

theorem replay_insert (initial : List ρ) : replay (initial.map .insert) = ofList initial := by
  rw [← List.append_nil (initial.map _), replay_from]
  rfl

/-- Of the objects a store starts with, the last one of each place is stored. -/
theorem mem_ofList_iff (initial : List ρ) (object : ρ) :
    object ∈ (ofList initial).objects ↔
      Latest (fun other => placeOf other = placeOf object) initial object := by
  rw [← replay_insert, mem_replay_iff, latest_map]
  constructor
  · rintro ⟨_, same, latest⟩
    rwa [Write.insert.inj same] at latest
  · intro latest
    exact ⟨object, rfl, latest⟩

theorem keyed_ofList (initial : List ρ) : Keyed (ofList initial).objects := by
  rw [← replay_insert]
  exact keyed_replay _

theorem mem_map_placeOf_ofList (initial : List ρ) (place : String × String) :
    place ∈ (ofList initial).objects.map placeOf ↔ place ∈ initial.map placeOf := by
  induction initial using List.reverseRecOn with
  | nil => rfl
  | append_singleton initial last ih =>
    rw [ofList_append_singleton, insert, map_placeOf_place, List.map_append, List.mem_append,
      List.map_singleton, ← ih, List.mem_singleton]
    split
    next taken =>
      refine (or_iff_left_of_imp ?_).symm
      rintro rfl
      exact taken
    next => rw [List.mem_append, List.mem_singleton]

/-- A store of given objects has one for each of their places. -/
theorem size_ofList (initial : List ρ) :
    (ofList initial).size = (initial.map placeOf).dedup.length := by
  have places : ((ofList initial).objects.map placeOf).Perm (initial.map placeOf).dedup := by
    -- The store keeps the first of equal places and `dedup` the last, so the order may differ.
    rw [List.perm_ext_iff_of_nodup (keyed_ofList initial) (List.nodup_dedup _)]
    intro place
    rw [mem_map_placeOf_ofList, List.mem_dedup]
  rw [size, ← places.length_eq, List.length_map]

end Store

end CertLifecycle
