import CertLifecycle.Proofs.Predicate.Flattening
import CertLifecycle.Store.Listing
import Mathlib.Data.List.Nodup

/-!
Filtered listings follow the listing. Each object is judged once, in the order in which the source gave
them, and those stay for which every test holds. Main result: `filters_like_flat_list`, nested conjunctions
filter like the list of their tests, so regrouping them changes nothing and another order of their parts
does not change what is found.
-/

namespace CertLifecycle

variable {ρ ι : Type}

open Predicate (Asks)

/-- What was asked of all objects is what was asked of each, one after the other. -/
theorem Filtered.asked_judged (judge : ρ → Evaluation ι) (objects : List ρ) :
    ((judged judge objects).flatMap fun verdict => verdict.2.asked) =
      objects.flatMap fun object => (judge object).asked := by
  rw [judged, List.flatMap_map]

/-- What a filtered listing comes to, given what was listed and the tests in one list. -/
structure Filtered.Follows (listed : Except StoreError (List ρ)) (answer : ι → ρ → Bool) (tests : List ι)
    (filtered : Filtered ρ ι) : Prop where
  /-- Without a listing nothing is found and nothing is asked. -/
  refused : ∀ error, listed = .error error → filtered = ⟨.error error, []⟩
  /-- The objects stay for which all tests hold. -/
  kept : ∀ objects, listed = .ok objects →
    filtered.found = .ok (objects.filter fun object => tests.all (answer · object))
  /-- The tests are asked for each object once, one object after the other. -/
  judged : ∀ objects, listed = .ok objects → ∃ asked : ρ → List ι,
    (∀ object, Asks (answer · object) tests (asked object)) ∧
      filtered.asked = objects.flatMap fun object =>
        (asked object).map fun test => (test, answer test object)

namespace Lister

variable {lister : Lister ρ} {scope : String} {selector : LabelSelector}

theorem matching_of_error {error : StoreError} (failed : lister.list scope selector = .error error)
    (answer : ι → ρ → Bool) (predicate : Predicate ι) :
    lister.matching scope selector answer predicate = ⟨⟨.error error, []⟩, []⟩ := by
  rw [matching, failed]
  rfl

theorem matching_of_ok {objects : List ρ} (listed : lister.list scope selector = .ok objects)
    (answer : ι → ρ → Bool) (predicate : Predicate ι) :
    (lister.matching scope selector answer predicate).result =
      ⟨.ok (objects.filter fun object => (predicate.evaluate (answer · object)).holds),
        objects.flatMap fun object => (predicate.evaluate (answer · object)).asked⟩ := by
  rw [matching, listed, ← Filtered.kept_judged, ← Filtered.asked_judged]
  rfl

/-- If at most one object of a listing passes the tests, nothing else is found. -/
theorem found_only {objects : List ρ} (listed : lister.list scope selector = .ok objects)
    (distinct : objects.Nodup) {answer : ι → ρ → Bool} {predicate : Predicate ι} {only : Option ρ}
    (passes : ∀ object, object ∈ objects ∧ predicate.tests.all (answer · object) = true ↔
      only = some object) :
    (lister.matching scope selector answer predicate).result.found = .ok only.toList := by
  have same : (objects.filter fun object => predicate.tests.all (answer · object)).Perm only.toList := by
    rw [List.perm_ext_iff_of_nodup (distinct.filter _) only.toList_nodup]
    intro object
    rw [List.mem_filter, passes, Option.mem_toList]
  rw [matching_of_ok listed]
  simp only [Predicate.holds_evaluate]
  -- With one element or none there is only one order.
  cases only with
  | none => rw [List.perm_nil.mp same, Option.toList_none]
  | some object => rw [List.perm_singleton.mp same, Option.toList_some]

/-- A predicate matters to a filtered listing only through its evaluations. -/
theorem matching_congr {answer : ι → ρ → Bool} {predicate other : Predicate ι}
    (alike : ∀ object, other.evaluate (answer · object) = predicate.evaluate (answer · object)) :
    lister.matching scope selector answer other = lister.matching scope selector answer predicate := by
  rw [matching, matching, funext alike]

theorem found_congr {answer : ι → ρ → Bool} {predicate other : Predicate ι}
    (alike : ∀ object, (other.evaluate (answer · object)).holds =
      (predicate.evaluate (answer · object)).holds) :
    (lister.matching scope selector answer other).result.found =
      (lister.matching scope selector answer predicate).result.found := by
  cases listed : lister.list scope selector with
  | error error => rw [matching_of_error listed, matching_of_error listed]
  | ok objects => rw [matching_of_ok listed, matching_of_ok listed, funext alike]

theorem follows_matching (lister : Lister ρ) (scope : String) (selector : LabelSelector)
    (answer : ι → ρ → Bool) (predicate : Predicate ι) :
    Filtered.Follows (lister.list scope selector) answer predicate.tests
      (lister.matching scope selector answer predicate).result := by
  refine ⟨fun error failed => ?_, fun objects listed => ?_, fun objects listed => ?_⟩
  · rw [matching_of_error failed]
  · rw [matching_of_ok listed]
    simp only [Predicate.holds_evaluate]
  · choose asked asks evaluated using fun object => predicate.evaluate_asks (answer · object)
    refine ⟨asked, asks, ?_⟩
    rw [matching_of_ok listed]
    simp only [evaluated]

end Lister

namespace Predicate

/-- A nested conjunction holds if all its tests hold, and it is asked from left to right up to the first test
that fails. With it a listing keeps the objects for which all tests hold, each of them judged once and in the
order of the listing. A conjunction with the same tests in other groups is evaluated and filters in the same
way, and one with the tests, or the parts, in another order finds the same objects. -/
theorem filters_like_flat_list (answer : ι → ρ → Bool) (predicate : Predicate ι) :
    (∀ object, ∃ asked, Asks (answer · object) predicate.tests asked ∧
      predicate.evaluate (answer · object) =
        ⟨predicate.tests.all (answer · object), asked.map fun test => (test, answer test object)⟩) ∧
    (∀ (lister : Lister ρ) scope selector,
      Filtered.Follows (lister.list scope selector) answer predicate.tests
          (lister.matching scope selector answer predicate).result ∧
        ∀ first others, predicate = .conjunction first others →
          Filtered.Follows (lister.list scope selector) answer predicate.tests
            (lister.matchingAll scope selector answer first others).result) ∧
    (∀ other : Predicate ι, other.tests = predicate.tests →
      (∀ object, other.evaluate (answer · object) = predicate.evaluate (answer · object)) ∧
      ∀ (lister : Lister ρ) scope selector, lister.matching scope selector answer other =
        lister.matching scope selector answer predicate) ∧
    (∀ other : Predicate ι, other.tests.Perm predicate.tests →
      (∀ object, (other.evaluate (answer · object)).holds =
        (predicate.evaluate (answer · object)).holds) ∧
      ∀ (lister : Lister ρ) scope selector,
        (lister.matching scope selector answer other).result.found =
          (lister.matching scope selector answer predicate).result.found) ∧
    ∀ first others first' others', predicate = .conjunction first others →
      (first' :: others').Perm (first :: others) → ∀ (lister : Lister ρ) scope selector,
        (lister.matchingAll scope selector answer first' others').result.found =
          (lister.matchingAll scope selector answer first others).result.found := by
  have holds_of_perm (other : Predicate ι) (rearranged : other.tests.Perm predicate.tests) (object : ρ) :
      (other.evaluate (answer · object)).holds = (predicate.evaluate (answer · object)).holds := by
    rw [holds_evaluate, holds_evaluate, rearranged.all_eq]
  refine ⟨fun object => predicate.evaluate_asks (answer · object), fun lister scope selector => ?_,
    fun other same => ?_, fun other rearranged => ?_, ?_⟩
  · refine ⟨lister.follows_matching scope selector answer predicate, ?_⟩
    rintro first others rfl
    exact lister.follows_matching scope selector answer (.conjunction first others)
  · have alike (object : ρ) := evaluate_eq_of_tests_eq (answer · object) same
    exact ⟨alike, fun lister scope selector => Lister.matching_congr alike⟩
  · have alike := holds_of_perm other rearranged
    exact ⟨alike, fun lister scope selector => Lister.found_congr alike⟩
  · rintro first others first' others' rfl rearranged lister scope selector
    exact Lister.found_congr (holds_of_perm _ (tests_perm_of_parts_perm rearranged))

/-- Numbers that must not be above an object, in groups of which one is empty. -/
def thresholds : Predicate Nat :=
  .conjunction (.all []) [.conjunction (.test 0) [.all [.test 2]], .test 1]

/-- A source that lists the same numbers whatever is asked for. -/
def numbers : Lister Nat :=
  ⟨fun _ _ => .ok [1, 3, 2], fun _ _ => .error (.unavailable "lists only")⟩

/-- In one group, and with the parts in another order, the thresholds find what they find in groups. -/
theorem thresholds_filter_numbers :
    (∃ asked, Asks (· ≤ 1) thresholds.tests asked ∧
      thresholds.evaluate (· ≤ 1) = ⟨false, asked.map fun n => (n, decide (n ≤ 1))⟩) ∧
    (numbers.matching "" .everything (fun n object => n ≤ object) thresholds).result.found = .ok [3, 2] ∧
    numbers.matching "" .everything (fun n object => n ≤ object) (.all [.test 0, .test 2, .test 1]) =
      numbers.matching "" .everything (fun n object => n ≤ object) thresholds ∧
    (numbers.matchingAll "" .everything (fun n object => n ≤ object) (.test 1)
      [.all [], .conjunction (.test 0) [.all [.test 2]]]).result.found = .ok [3, 2] := by
  obtain ⟨evaluated, follows, regrouped, _, rearranged⟩ :=
    filters_like_flat_list (fun n object => decide (n ≤ object)) thresholds
  have kept := (follows numbers "" .everything).1.kept [1, 3, 2] rfl
  refine ⟨evaluated 1, kept, (regrouped (.all [.test 0, .test 2, .test 1]) rfl).2 numbers "" .everything, ?_⟩
  have moved := List.perm_append_singleton (test 1 : Predicate Nat)
    [.all [], .conjunction (.test 0) [.all [.test 2]]]
  rw [rearranged _ _ _ _ rfl moved.symm]
  exact kept

end Predicate

end CertLifecycle
