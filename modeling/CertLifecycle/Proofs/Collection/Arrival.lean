import CertLifecycle.Proofs.Collection.History
import Mathlib.Data.Set.Card

/-!
Things that come and go in the course of a history, and the order in which those that are there came.
A second coming of a thing that is there already does not count. Main results: `InOrderOfArrival.step`,
one more event keeps a list in the order of arrival if those it takes away leave the list and the new
one goes to its end, and `InOrderOfArrival.head?_eq_some_iff`, such a list starts with the one that came
first.
-/

namespace CertLifecycle.Collection

variable {ε α : Type}

/-- The last event that brought a thing or took it away brought it. -/
def Present (brings takes : ε → Prop) (history : List ε) : Prop :=
  ∃ event, brings event ∧ Latest (fun e => brings e ∨ takes e) history event

/-- The event at a place brought a thing that was not there, and no later event took it away. -/
def PresentSince (brings takes : ε → Prop) (history : List ε) (place : Nat) : Prop :=
  ∃ earlier event later, history = earlier ++ event :: later ∧ earlier.length = place ∧
    brings event ∧ ¬Present brings takes earlier ∧ ∀ after ∈ later, ¬takes after

section Single

variable {brings takes : ε → Prop}

theorem not_present_nil : ¬Present brings takes [] := by
  rintro ⟨event, _, latest⟩
  exact not_latest_nil _ _ latest

theorem present_append_singleton (history : List ε) (last : ε) :
    Present brings takes (history ++ [last]) ↔
      brings last ∨ ¬takes last ∧ Present brings takes history := by
  unfold Present
  simp only [latest_append_singleton]
  constructor
  · rintro ⟨event, comes, ⟨_, rfl⟩ | ⟨silent, latest⟩⟩
    · exact .inl comes
    · exact .inr ⟨fun gone => silent (.inr gone), event, comes, latest⟩
  · rintro (comes | ⟨stays, event, comes, latest⟩)
    · exact ⟨last, comes, .inl ⟨.inl comes, rfl⟩⟩
    · by_cases again : brings last
      · exact ⟨last, again, .inl ⟨.inl again, rfl⟩⟩
      · exact ⟨event, comes, .inr ⟨not_or.mpr ⟨again, stays⟩, latest⟩⟩

/-- What came is there until it is taken away. -/
theorem present_of_brings {earlier later : List ε} {event : ε} (comes : brings event)
    (stays : ∀ after ∈ later, ¬takes after) : Present brings takes (earlier ++ event :: later) := by
  induction later using List.reverseRecOn with
  | nil => exact (present_append_singleton earlier event).mpr (.inl comes)
  | append_singleton before last ih =>
    rw [← List.cons_append, ← List.append_assoc, present_append_singleton]
    refine .inr ⟨stays last (by simp), ih fun after member => ?_⟩
    exact stays after (List.mem_append_left _ member)

/-- What was taken away and is there again came in between. -/
theorem exists_brings_of_takes (apart : ∀ event, brings event → ¬takes event)
    {earlier between : List ε} {gone : ε} (takes_away : takes gone)
    (there : Present brings takes (earlier ++ gone :: between)) : ∃ event ∈ between, brings event := by
  induction between using List.reverseRecOn with
  | nil =>
    rcases (present_append_singleton earlier gone).mp there with comes | ⟨stays, _⟩
    · exact absurd takes_away (apart gone comes)
    · exact absurd takes_away stays
  | append_singleton before last ih =>
    rw [← List.cons_append, ← List.append_assoc, present_append_singleton] at there
    rcases there with comes | ⟨_, there⟩
    · exact ⟨last, by simp, comes⟩
    · obtain ⟨event, member, comes⟩ := ih there
      exact ⟨event, List.mem_append_left _ member, comes⟩

theorem PresentSince.lt_length {history : List ε} {place : Nat}
    (since : PresentSince brings takes history place) : place < history.length := by
  obtain ⟨earlier, event, later, rfl, rfl, _⟩ := since
  simp

theorem presentSince_append_singleton (history : List ε) (last : ε) (place : Nat) :
    PresentSince brings takes (history ++ [last]) place ↔
      ¬takes last ∧ PresentSince brings takes history place ∨
        brings last ∧ ¬Present brings takes history ∧ place = history.length := by
  constructor
  · rintro ⟨earlier, event, later, whole, rfl, comes, absent, stays⟩
    rcases append_singleton_eq_iff.mp whole with ⟨rfl, rfl, rfl⟩ | ⟨before, rfl, front⟩
    · exact .inr ⟨comes, absent, rfl⟩
    · refine .inl ⟨stays last (by simp), earlier, event, before, front, rfl, comes, absent, ?_⟩
      exact fun after member => stays after (List.mem_append_left _ member)
  · rintro (⟨stays, earlier, event, later, rfl, rfl, comes, absent, quiet⟩ | ⟨comes, absent, rfl⟩)
    · refine ⟨earlier, event, later ++ [last], by simp, rfl, comes, absent, fun after member => ?_⟩
      rcases List.mem_append.mp member with old | new
      · exact quiet after old
      · rwa [List.mem_singleton.mp new]
    · exact ⟨history, last, [], rfl, rfl, comes, absent, by simp⟩

/-- What is there came at some time, if no event brings and takes it at once. -/
theorem exists_presentSince_iff (apart : ∀ event, brings event → ¬takes event) (history : List ε) :
    (∃ place, PresentSince brings takes history place) ↔ Present brings takes history := by
  induction history using List.reverseRecOn with
  | nil =>
    refine iff_of_false ?_ not_present_nil
    rintro ⟨place, since⟩
    exact absurd since.lt_length (by simp)
  | append_singleton history last ih =>
    simp only [presentSince_append_singleton, present_append_singleton, exists_or, exists_and_left, ih,
      exists_eq, and_true]
    constructor
    · rintro (stays | ⟨comes, _⟩)
      · exact .inr stays
      · exact .inl comes
    · rintro (comes | stays)
      · by_cases there : Present brings takes history
        · exact .inl ⟨apart last comes, there⟩
        · exact .inr ⟨comes, there⟩
      · exact .inl stays

/-- What is there came at one time only. -/
theorem PresentSince.unique (apart : ∀ event, brings event → ¬takes event) {history : List ε}
    {place other : Nat} (first : PresentSince brings takes history place)
    (second : PresentSince brings takes history other) : place = other := by
  induction history using List.reverseRecOn with
  | nil => exact absurd first.lt_length (by simp)
  | append_singleton history last ih =>
    rw [presentSince_append_singleton] at first second
    rcases first with ⟨_, first⟩ | ⟨_, absent, rfl⟩ <;>
      rcases second with ⟨_, second⟩ | ⟨_, absent', rfl⟩
    · exact ih first second
    · exact absurd ((exists_presentSince_iff apart history).mp ⟨_, first⟩) absent'
    · exact absurd ((exists_presentSince_iff apart history).mp ⟨_, second⟩) absent
    · rfl

end Single

/-- A list of the things that are there after a history, those that came earlier first. -/
structure InOrderOfArrival (brings takes : α → ε → Prop) (history : List ε) (items : List α) :
    Prop where
  members : ∀ x, x ∈ items ↔ Present (brings x) (takes x) history
  ascending : items.Pairwise fun x y => ∀ i j, PresentSince (brings x) (takes x) history i →
    PresentSince (brings y) (takes y) history j → i < j

namespace InOrderOfArrival

variable {brings takes : α → ε → Prop} {history : List ε} {items : List α}

theorem nil : InOrderOfArrival brings takes [] ([] : List α) where
  members x := iff_of_false (by simp) not_present_nil
  ascending := .nil

/-- Those that an event takes away leave the list, and one that it brings goes to the end. -/
theorem step (apart : ∀ x event, brings x event → ¬takes x event)
    (ordered : InOrderOfArrival brings takes history items) {last : ε} (kept fresh : List α)
    (part : kept.Sublist items) (stays : ∀ x, x ∈ kept ↔ x ∈ items ∧ ¬takes x last)
    (comes : ∀ x, x ∈ fresh ↔ brings x last ∧ x ∉ items) (single : fresh.length ≤ 1) :
    InOrderOfArrival brings takes (history ++ [last]) (kept ++ fresh) := by
  -- Those that were there keep their time of arrival, and the new one comes last.
  have old : ∀ x ∈ kept, ∀ i, PresentSince (brings x) (takes x) (history ++ [last]) i →
      PresentSince (brings x) (takes x) history i := by
    intro x member i since
    rcases (presentSince_append_singleton history last i).mp since with ⟨_, old⟩ | ⟨_, absent, _⟩
    · exact old
    · exact absurd ((ordered.members x).mp (part.subset member)) absent
  have new : ∀ x ∈ fresh, ∀ i, PresentSince (brings x) (takes x) (history ++ [last]) i →
      i = history.length := by
    intro x member i since
    rcases (presentSince_append_singleton history last i).mp since with ⟨_, old⟩ | ⟨_, _, place⟩
    · have there := (exists_presentSince_iff (apart x) history).mp ⟨i, old⟩
      exact absurd ((ordered.members x).mpr there) ((comes x).mp member).2
    · exact place
  refine ⟨fun x => ?_, List.pairwise_append.mpr ⟨?_, ?_, ?_⟩⟩
  · rw [List.mem_append, stays, comes, present_append_singleton, ← ordered.members]
    have separate := apart x last
    tauto
  · refine (ordered.ascending.sublist part).imp_of_mem fun {x y} here there before i j since since' => ?_
    exact before i j (old x here i since) (old y there j since')
  · match fresh, single with
    | [], _ => exact .nil
    | [x], _ => exact List.pairwise_singleton _ _
  · intro x here y there i j since since'
    rw [new y there j since']
    exact (old x here i since).lt_length

/-- An event that brings one thing puts it at the end unless it is there already. -/
theorem bring (apart : ∀ x event, brings x event → ¬takes x event)
    (ordered : InOrderOfArrival brings takes history items) {last : ε} {y : α} [Decidable (y ∈ items)]
    (comes : ∀ x, brings x last ↔ x = y) (stays : ∀ x, ¬takes x last) :
    InOrderOfArrival brings takes (history ++ [last]) (if y ∈ items then items else items ++ [y]) := by
  have all : ∀ x, x ∈ items ↔ x ∈ items ∧ ¬takes x last := fun x => (and_iff_left (stays x)).symm
  split
  next there =>
    have same := ordered.step apart items [] (List.Sublist.refl items) all (fun x => ?_) (by simp)
    · rwa [List.append_nil] at same
    · rw [comes]
      refine iff_of_false (by simp) ?_
      rintro ⟨rfl, absent⟩
      exact absent there
  next absent =>
    refine ordered.step apart items [y] (List.Sublist.refl items) all (fun x => ?_) (by simp)
    rw [List.mem_singleton, comes]
    exact (and_iff_left_of_imp fun same => same ▸ absent).symm

/-- An event that brings nothing leaves those in the list that it does not take away. -/
theorem take (apart : ∀ x event, brings x event → ¬takes x event)
    (ordered : InOrderOfArrival brings takes history items) {last : ε} {kept : List α}
    (part : kept.Sublist items) (stays : ∀ x, x ∈ kept ↔ x ∈ items ∧ ¬takes x last)
    (quiet : ∀ x, ¬brings x last) : InOrderOfArrival brings takes (history ++ [last]) kept := by
  have rest := ordered.step apart kept [] part stays (fun x => ?_) (by simp)
  · rwa [List.append_nil] at rest
  · exact iff_of_false (by simp) fun new => quiet x new.1

theorem nodup (apart : ∀ x event, brings x event → ¬takes x event)
    (ordered : InOrderOfArrival brings takes history items) : items.Nodup := by
  refine ordered.ascending.imp_of_mem fun {x y} member _ before same => ?_
  subst same
  obtain ⟨i, since⟩ := (exists_presentSince_iff (apart x) history).mpr ((ordered.members x).mp member)
  exact Nat.lt_irrefl i (before i i since since)

/-- The list starts with the one that came first. -/
theorem head?_eq_some_iff (apart : ∀ x event, brings x event → ¬takes x event)
    (ordered : InOrderOfArrival brings takes history items) (x : α) :
    items.head? = some x ↔ ∃ i, PresentSince (brings x) (takes x) history i ∧
      ∀ y j, PresentSince (brings y) (takes y) history j → i ≤ j := by
  have listed : ∀ y j, PresentSince (brings y) (takes y) history j → y ∈ items := fun y j since =>
    (ordered.members y).mpr ((exists_presentSince_iff (apart y) history).mp ⟨j, since⟩)
  cases items with
  | nil =>
    refine iff_of_false (by simp) ?_
    rintro ⟨i, since, _⟩
    exact absurd (listed x i since) (by simp)
  | cons first rest =>
    obtain ⟨before, _⟩ := List.pairwise_cons.mp ordered.ascending
    obtain ⟨i, arrived⟩ := (exists_presentSince_iff (apart first) history).mpr
      ((ordered.members first).mp List.mem_cons_self)
    rw [List.head?_cons, Option.some.injEq]
    constructor
    · rintro rfl
      refine ⟨i, arrived, fun y j since => ?_⟩
      rcases List.mem_cons.mp (listed y j since) with rfl | later
      · exact Nat.le_of_eq (arrived.unique (apart y) since)
      · exact Nat.le_of_lt (before y later i j arrived since)
    · rintro ⟨k, since, least⟩
      rcases List.mem_cons.mp (listed x k since) with rfl | later
      · rfl
      · exact absurd (before x later i k arrived since) (Nat.not_lt.mpr (least first i arrived))

/-- The list is as long as there are things. -/
theorem length_eq_ncard (apart : ∀ x event, brings x event → ¬takes x event)
    (ordered : InOrderOfArrival brings takes history items) :
    items.length = {x | Present (brings x) (takes x) history}.ncard := by
  classical
  have same : {x | Present (brings x) (takes x) history} = (items.toFinset : Set α) := by
    ext x
    rw [Set.mem_ofPred_eq, ← ordered.members, SetLike.mem_coe, List.mem_toFinset]
  rw [same, Set.ncard_coe_finset, List.toFinset_card_of_nodup (ordered.nodup apart)]

end InOrderOfArrival

end CertLifecycle.Collection
