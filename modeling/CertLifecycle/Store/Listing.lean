import CertLifecycle.Log.Event
import CertLifecycle.Predicate.Basic
import CertLifecycle.Store.Lister

/-!
Listing and then filtering. The source is asked once; every object it gives is judged once, in its
order. If the source fails, nothing is judged and nothing is reported.
-/

namespace CertLifecycle

/-- What a filtered listing came to: the objects kept or why there are none, and every test asked on
the way with its answer. -/
structure Filtered (ρ ι : Type) where
  found : Except StoreError (List ρ)
  asked : List (ι × Bool)

namespace Filtered

variable {ρ ι : Type}

/-- Each object with how it was judged, in order. -/
def judged (judge : ρ → Evaluation ι) (objects : List ρ) : List (ρ × Evaluation ι) :=
  objects.map fun object => (object, judge object)

/-- The objects for which the judgement holds. -/
def kept (verdicts : List (ρ × Evaluation ι)) : List ρ :=
  (verdicts.filter (·.2.holds)).map Prod.fst

/-- Judging and keeping is filtering by the answer. -/
theorem kept_judged (judge : ρ → Evaluation ι) (objects : List ρ) :
    kept (judged judge objects) = objects.filter fun object => (judge object).holds := by
  simp [kept, judged, List.filter_map, Function.comp_def]

end Filtered

namespace Lister

variable {ρ ι : Type}

/-- The objects that a source lists and a predicate holds for, given how its tests answer. -/
def matching (lister : Lister ρ) (scope : String) (selector : LabelSelector)
    (answer : ι → ρ → Bool) (predicate : Predicate ι) : Logged (Filtered ρ ι) :=
  match lister.list scope selector with
  | .error error => return ⟨.error error, []⟩
  | .ok objects => do
    let verdicts := Filtered.judged (fun object => predicate.evaluate (answer · object)) objects
    let found := Filtered.kept verdicts
    Logged.report (.filteredListing scope selector objects.length found.length)
    return ⟨.ok found, verdicts.flatMap (·.2.asked)⟩

/-- The objects that a source lists and all of at least one predicates hold for. -/
def matchingAll (lister : Lister ρ) (scope : String) (selector : LabelSelector)
    (answer : ι → ρ → Bool) (first : Predicate ι) (others : List (Predicate ι)) :
    Logged (Filtered ρ ι) :=
  lister.matching scope selector answer (.conjunction first others)

end Lister

end CertLifecycle
