import CertLifecycle.Predicate.Basic
import Mathlib.Data.List.Perm.Basic

/-!
Conjunctions within conjunctions are one list of tests. Evaluations follow one another in the same way at
every level, so it makes no difference where the groups begin and end. Main results: `evaluate_eq_flat`, a
predicate is evaluated like its tests side by side, and `evaluate_asks`, the answer is that of all tests
together, and what is asked ends with the first test that fails.
-/

namespace CertLifecycle

variable {ι : Type}

namespace Evaluation

/-- An evaluation and then another one, which takes place only if the first holds. -/
def andThen (first second : Evaluation ι) : Evaluation ι :=
  if first.holds then ⟨second.holds, first.asked ++ second.asked⟩ else first

theorem nothing_andThen (second : Evaluation ι) : andThen ⟨true, []⟩ second = second := rfl

theorem andThen_nothing (first : Evaluation ι) : first.andThen ⟨true, []⟩ = first := by
  obtain ⟨holds, asked⟩ := first
  cases holds <;> simp [andThen]

theorem andThen_assoc (first second third : Evaluation ι) :
    (first.andThen second).andThen third = first.andThen (second.andThen third) := by
  obtain ⟨holds, asked⟩ := first
  obtain ⟨holds', asked'⟩ := second
  cases holds <;> cases holds' <;> simp [andThen]

end Evaluation

namespace Predicate

variable (answer : ι → Bool)

theorem evaluateAll_cons (part : Predicate ι) (others : List (Predicate ι)) :
    evaluateAll answer (part :: others) = (part.evaluate answer).andThen (evaluateAll answer others) := by
  rw [evaluateAll]
  rfl

theorem evaluate_conjunction (first : Predicate ι) (others : List (Predicate ι)) :
    (conjunction first others).evaluate answer = evaluateAll answer (first :: others) := by
  rw [evaluate, evaluateAll]

theorem evaluateAll_append (front back : List (Predicate ι)) :
    evaluateAll answer (front ++ back) = (evaluateAll answer front).andThen (evaluateAll answer back) := by
  induction front with
  | nil =>
    rw [List.nil_append, evaluateAll, Evaluation.nothing_andThen]
  | cons part others ih =>
    rw [List.cons_append, evaluateAll_cons, evaluateAll_cons, ih, Evaluation.andThen_assoc]

mutual

/-- A predicate is evaluated like its tests in one list. -/
theorem evaluate_eq_flat :
    ∀ predicate : Predicate ι, predicate.evaluate answer = evaluateAll answer (predicate.tests.map .test)
  | .test question => by
    rw [tests, List.map_singleton, evaluateAll_cons, evaluateAll, Evaluation.andThen_nothing]
  | .all parts => by
    rw [evaluate, tests]
    exact evaluateAll_eq_flat parts
  | .conjunction first others => by
    rw [evaluate_conjunction, evaluateAll_cons, evaluate_eq_flat first, evaluateAll_eq_flat others,
      ← evaluateAll_append, ← List.map_append, tests]

theorem evaluateAll_eq_flat :
    ∀ parts : List (Predicate ι), evaluateAll answer parts = evaluateAll answer ((testsAll parts).map .test)
  | [] => by rw [testsAll, List.map_nil]
  | part :: others => by
    rw [evaluateAll_cons, evaluate_eq_flat part, evaluateAll_eq_flat others, ← evaluateAll_append,
      ← List.map_append, testsAll]

end

/-- Which of the tests in a list are asked: all of them if they all hold, and otherwise those up to the first
that fails. -/
inductive Asks (answer : ι → Bool) (tests : List ι) : List ι → Prop where
  | all (hold : ∀ test ∈ tests, answer test = true) : Asks answer tests tests
  | upTo {front rest : List ι} {failing : ι} (whole : tests = front ++ failing :: rest)
    (hold : ∀ test ∈ front, answer test = true) (fails : answer failing = false) :
    Asks answer tests (front ++ [failing])

theorem Asks.cons {answer : ι → Bool} {test : ι} {tests asked : List ι} (holds : answer test = true)
    (asks : Asks answer tests asked) : Asks answer (test :: tests) (test :: asked) := by
  cases asks with
  | all hold => exact .all (List.forall_mem_cons.mpr ⟨holds, hold⟩)
  | @upTo front rest failing whole hold fails =>
    have longer : test :: tests = (test :: front) ++ failing :: rest := by
      rw [whole, List.cons_append]
    exact .upTo longer (List.forall_mem_cons.mpr ⟨holds, hold⟩) fails

/-- Tests in one list are asked in turn, and hold if each of them holds. -/
theorem flat_asks (tests : List ι) :
    ∃ asked, Asks answer tests asked ∧ evaluateAll answer (tests.map .test) =
      ⟨tests.all answer, asked.map fun test => (test, answer test)⟩ := by
  induction tests with
  | nil => exact ⟨[], .all (List.forall_mem_nil _), rfl⟩
  | cons test rest ih =>
    obtain ⟨asked, asks, evaluated⟩ := ih
    rw [List.map_cons, evaluateAll_cons, evaluated, evaluate]
    cases first : answer test with
    | true =>
      refine ⟨test :: asked, asks.cons first, ?_⟩
      simp [Evaluation.andThen, first]
    | false =>
      refine ⟨[test], .upTo (List.nil_append _).symm (List.forall_mem_nil _) first, ?_⟩
      simp [Evaluation.andThen, first]

theorem evaluate_asks (predicate : Predicate ι) :
    ∃ asked, Asks answer predicate.tests asked ∧ predicate.evaluate answer =
      ⟨predicate.tests.all answer, asked.map fun test => (test, answer test)⟩ := by
  rw [evaluate_eq_flat]
  exact flat_asks answer predicate.tests

theorem holds_evaluate (predicate : Predicate ι) :
    (predicate.evaluate answer).holds = predicate.tests.all answer := by
  obtain ⟨asked, _, evaluated⟩ := evaluate_asks answer predicate
  rw [evaluated]

/-- Predicates with the same tests in the same order are evaluated alike, however they are grouped. -/
theorem evaluate_eq_of_tests_eq {predicate other : Predicate ι} (same : other.tests = predicate.tests) :
    other.evaluate answer = predicate.evaluate answer := by
  rw [evaluate_eq_flat, evaluate_eq_flat, same]

theorem testsAll_eq_flatMap (parts : List (Predicate ι)) : testsAll parts = parts.flatMap tests := by
  induction parts with
  | nil => rw [testsAll, List.flatMap_nil]
  | cons part others ih => rw [testsAll, List.flatMap_cons, ih]

/-- Another order of the parts is another order of the tests. -/
theorem tests_perm_of_parts_perm {first first' : Predicate ι} {others others' : List (Predicate ι)}
    (rearranged : (first' :: others').Perm (first :: others)) :
    (conjunction first' others').tests.Perm (conjunction first others).tests := by
  have flattened := rearranged.flatMap_right tests
  rwa [← testsAll_eq_flatMap, ← testsAll_eq_flatMap, testsAll, testsAll, ← tests, ← tests] at flattened

end Predicate

end CertLifecycle
