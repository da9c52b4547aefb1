/-!
Predicates made of tests that are joined by conjunctions. Evaluation goes from left to right and
stops at the first test that fails; besides the answer it gives the tests that were asked, in order,
with what each of them answered.
-/

namespace CertLifecycle

/-- A predicate over tests. -/
inductive Predicate (ι : Type) where
  | test (question : ι)
  /-- All of any number of parts. -/
  | all (parts : List (Predicate ι))
  /-- All of at least one part. -/
  | conjunction (first : Predicate ι) (others : List (Predicate ι))

/-- What an evaluation found: the answer, and the tests asked with their answers. -/
structure Evaluation (ι : Type) where
  holds : Bool
  asked : List (ι × Bool)
  deriving DecidableEq

namespace Predicate

variable {ι κ : Type}

mutual

/-- Evaluates a predicate, given how tests answer. -/
def evaluate (answer : ι → Bool) : Predicate ι → Evaluation ι
  | .test question => ⟨answer question, [(question, answer question)]⟩
  | .all parts => evaluateAll answer parts
  | .conjunction first others =>
    let start := first.evaluate answer
    if start.holds then
      let rest := evaluateAll answer others
      ⟨rest.holds, start.asked ++ rest.asked⟩
    else start

/-- Evaluates parts until one does not hold. -/
def evaluateAll (answer : ι → Bool) : List (Predicate ι) → Evaluation ι
  | [] => ⟨true, []⟩
  | part :: others =>
    let start := part.evaluate answer
    if start.holds then
      let rest := evaluateAll answer others
      ⟨rest.holds, start.asked ++ rest.asked⟩
    else start

end

mutual

/-- The tests from left to right. -/
def tests : Predicate ι → List ι
  | .test question => [question]
  | .all parts => testsAll parts
  | .conjunction first others => first.tests ++ testsAll others

/-- The tests of several parts from left to right. -/
def testsAll : List (Predicate ι) → List ι
  | [] => []
  | part :: others => part.tests ++ testsAll others

end

mutual

/-- Numbers the tests from left to right; also gives the next free number. -/
def number (next : Nat) : Predicate ι → Predicate (Nat × ι) × Nat
  | .test question => (.test (next, question), next + 1)
  | .all parts =>
    let (parts, next) := numberAll next parts
    (.all parts, next)
  | .conjunction first others =>
    let (first, next) := first.number next
    let (others, next) := numberAll next others
    (.conjunction first others, next)

/-- Numbers the tests of several parts from left to right. -/
def numberAll (next : Nat) : List (Predicate ι) → List (Predicate (Nat × ι)) × Nat
  | [] => ([], next)
  | part :: others =>
    let (part, next) := part.number next
    let (others, next) := numberAll next others
    (part :: others, next)

end

/-- The predicate with each test numbered by its place from left to right. -/
def numbered (predicate : Predicate ι) : Predicate (Nat × ι) :=
  (predicate.number 0).1

end Predicate

end CertLifecycle
