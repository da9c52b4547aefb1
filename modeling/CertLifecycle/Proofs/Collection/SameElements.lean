import CertLifecycle.Collection.Distinct
import Mathlib.Logic.Basic

/-!
Comparison of lists as sets. Main results: `sameElements_iff_contains_eq`, comparing the ascending lists of
distinct elements decides whether the same elements occur in two lists, for every order of the elements that
agrees with their equality, and `sameElements_iff`, whether the lists have the same members.
-/

namespace CertLifecycle.Collection

/-- Two lists hold the same values, whatever their order and repetitions. -/
def SameSet {α : Type} (xs ys : List α) : Prop :=
  ∀ x, x ∈ xs ↔ x ∈ ys

@[simp]
theorem sameElements_self {α : Type} [Ord α] [BEq α] [ReflBEq α] (xs : List α) :
    sameElements xs xs = true :=
  BEq.rfl

variable {α : Type} [Ord α] [Std.TransOrd α]

theorem ascending_insertDistinct (x : α) (xs : List α)
    (ascending : xs.Pairwise fun a b => compare a b = .lt) :
    (insertDistinct x xs).Pairwise fun a b => compare a b = .lt := by
  induction xs with
  | nil => simp [insertDistinct]
  | cons first rest ih =>
    obtain ⟨above, tail⟩ := List.pairwise_cons.mp ascending
    rw [insertDistinct]
    split
    next below =>
      refine List.pairwise_cons.mpr ⟨fun y member => ?_, ascending⟩
      rcases List.mem_cons.mp member with rfl | later
      · exact below
      · exact Std.TransCmp.lt_trans below (above y later)
    next => exact ascending
    next greater =>
      refine List.pairwise_cons.mpr ⟨fun y member => ?_, ih tail⟩
      rcases mem_of_mem_insertDistinct member with rfl | later
      · exact Std.OrientedCmp.gt_iff_lt.mp greater
      · exact above y later

theorem ascending_distinct (xs : List α) :
    (distinct xs).Pairwise fun a b => compare a b = .lt := by
  -- The fold starts from any ascending list, for after one step it is no longer the empty one.
  have collected : ∀ found : List α, (found.Pairwise fun a b => compare a b = .lt) →
      (xs.foldl (fun found y => insertDistinct y found) found).Pairwise
        fun a b => compare a b = .lt := by
    induction xs with
    | nil => exact fun _ ascending => ascending
    | cons first rest ih =>
      intro found ascending
      exact ih _ (ascending_insertDistinct first found ascending)
  exact collected [] .nil

section Occurrence

variable [BEq α] [Std.LawfulBEqOrd α]

/-- Nothing that occurs in an ascending list is below its first element. -/
theorem isLE_of_contains {first x : α} {rest : List α} (above : ∀ y ∈ rest, compare first y = .lt)
    (occurs : (first :: rest).contains x = true) : (compare first x).isLE = true := by
  obtain ⟨y, member, same⟩ := List.contains_iff_exists_mem_beq.mp occurs
  rw [Std.TransCmp.congr_right (Std.compare_eq_iff_beq.mpr same)]
  rcases List.mem_cons.mp member with rfl | later
  · rw [Std.ReflOrd.compare_self]
    rfl
  · rw [above y later]
    rfl

/-- The rest of an ascending list is the list without its first element. -/
theorem contains_rest {first : α} {rest : List α} (above : ∀ y ∈ rest, compare first y = .lt) (x : α) :
    rest.contains x = ((first :: rest).contains x && !(x == first)) := by
  rw [List.contains_cons]
  cases same : x == first with
  | false => simp
  | true =>
    -- What equals the first element is above it nowhere in the rest.
    rw [Bool.not_true, Bool.and_false, ← Bool.not_eq_true, List.contains_iff_exists_mem_beq]
    rintro ⟨y, member, again⟩
    have equal : compare first y = .eq :=
      Std.compare_eq_iff_beq.mpr (PartialEquivBEq.trans (PartialEquivBEq.symm same) again)
    simp [above y member] at equal

/-- Two ascending lists in which the same elements occur are equal. -/
theorem beq_of_contains_eq {xs ys : List α} (ascending : xs.Pairwise fun a b => compare a b = .lt)
    (ascending' : ys.Pairwise fun a b => compare a b = .lt)
    (same : ∀ x, xs.contains x = ys.contains x) : (xs == ys) = true := by
  induction xs generalizing ys with
  | nil =>
    cases ys with
    | nil => rfl
    | cons y ys => simpa using same y
  | cons x xs ih =>
    cases ys with
    | nil => simpa using same x
    | cons y ys =>
      obtain ⟨above, tail⟩ := List.pairwise_cons.mp ascending
      obtain ⟨above', tail'⟩ := List.pairwise_cons.mp ascending'
      -- Each of the first elements occurs in the other list, so neither is below the other.
      have below : (compare x y).isLE = true := isLE_of_contains above (by simp [same y])
      have below' : (compare y x).isLE = true := isLE_of_contains above' (by simp [← same x])
      have equal : (x == y) = true :=
        Std.compare_eq_iff_beq.mp (Std.OrientedCmp.isLE_antisymm below below')
      rw [List.cons_beq_cons, equal, Bool.true_and]
      -- Without these two the same elements still occur in the lists.
      refine ih tail tail' fun z => ?_
      rw [contains_rest above z, contains_rest above' z, same z, BEq.congr_right equal]

theorem contains_eq_of_beq {xs ys : List α} (equal : (xs == ys) = true) (x : α) :
    xs.contains x = ys.contains x := by
  induction xs generalizing ys with
  | nil =>
    cases ys with
    | nil => rfl
    | cons y ys => exact absurd equal (by simp)
  | cons first rest ih =>
    cases ys with
    | nil => exact absurd equal (by simp)
    | cons y ys =>
      rw [List.cons_beq_cons, Bool.and_eq_true] at equal
      rw [List.contains_cons, List.contains_cons, ih equal.2, BEq.congr_right equal.1]

/-- The comparison of two lists as sets finds exactly the lists in which the same elements occur. -/
theorem sameElements_iff_contains_eq {xs ys : List α} :
    sameElements xs ys = true ↔ ∀ x, xs.contains x = ys.contains x := by
  rw [sameElements]
  constructor
  · intro equal x
    rw [← contains_distinct x xs, contains_eq_of_beq equal, contains_distinct]
  · intro same
    refine beq_of_contains_eq (ascending_distinct xs) (ascending_distinct ys) fun x => ?_
    rw [contains_distinct, contains_distinct, same]

end Occurrence

/-- The comparison of two lists as sets finds exactly the lists with the same members. -/
theorem sameElements_iff [Std.LawfulEqOrd α] [BEq α] [LawfulBEq α] {xs ys : List α} :
    sameElements xs ys = true ↔ SameSet xs ys := by
  rw [sameElements_iff_contains_eq]
  refine forall_congr' fun x => ?_
  rw [Bool.eq_iff_iff, List.contains_iff_mem, List.contains_iff_mem]

theorem sameElements_eq_false [Std.LawfulEqOrd α] [BEq α] [LawfulBEq α] {xs ys : List α} :
    sameElements xs ys = false ↔ ¬SameSet xs ys := by
  rw [← sameElements_iff, Bool.not_eq_true]

section Matched

variable {α β γ : Type}

/-- Every element of either list is related to one of the other. -/
def Matched (R : α → β → Prop) (xs : List α) (ys : List β) : Prop :=
  (∀ x ∈ xs, ∃ y ∈ ys, R x y) ∧ ∀ y ∈ ys, ∃ x ∈ xs, R x y

instance {R : α → β → Prop} [DecidableRel R] {xs : List α} {ys : List β} :
    Decidable (Matched R xs ys) :=
  inferInstanceAs (Decidable (_ ∧ _))

/-- Values that a function does not tell apart are the same set of results. -/
theorem Matched.sameSet_map {R : α → β → Prop} {xs : List α} {ys : List β} (matched : Matched R xs ys)
    {f : α → γ} {g : β → γ} (agree : ∀ x y, R x y → f x = g y) : SameSet (xs.map f) (ys.map g) := by
  intro z
  rw [List.mem_map, List.mem_map]
  constructor
  · rintro ⟨x, member, rfl⟩
    obtain ⟨y, known, related⟩ := matched.1 x member
    exact ⟨y, known, (agree x y related).symm⟩
  · rintro ⟨y, member, rfl⟩
    obtain ⟨x, known, related⟩ := matched.2 y member
    exact ⟨x, known, agree x y related⟩

theorem matched_eq_iff {xs ys : List α} : Matched Eq xs ys ↔ SameSet xs ys := by
  constructor
  · intro matched
    simpa using matched.sameSet_map fun _ _ same => same
  · intro same
    constructor
    · intro x member
      exact ⟨x, (same x).mp member, rfl⟩
    · intro x member
      exact ⟨x, (same x).mpr member, rfl⟩

instance [DecidableEq α] {xs ys : List α} : Decidable (SameSet xs ys) :=
  decidable_of_iff _ matched_eq_iff

theorem SameSet.map {xs ys : List α} (same : SameSet xs ys) (f : α → β) :
    SameSet (xs.map f) (ys.map f) := by
  intro z
  rw [List.mem_map, List.mem_map]
  exact exists_congr fun x => and_congr_left fun _ => same x

/-- Comparison as sets does not depend on the lists that stand for the sets. -/
theorem SameSet.congr {xs xs' ys ys' : List α} (first : SameSet xs xs') (second : SameSet ys ys') :
    SameSet xs ys ↔ SameSet xs' ys' := by
  constructor
  · intro same x
    rw [← first x, ← second x]
    exact same x
  · intro same x
    rw [first x, second x]
    exact same x

end Matched

end CertLifecycle.Collection
