import Mathlib.Data.List.Forall2

/-!
Reading the elements of a list one after the other, where each may fail. Main results: `mapM_eq_ok_iff`, a
traversal that succeeds is pointwise, `mapM_eq_error_iff`, one that fails has the failure of the first
element that fails, and `mapM_read_write`, what was written comes back.
-/

namespace CertLifecycle.Collection

variable {α β ε : Type} {read : α → Except ε β}

theorem exists_of_mem_left {R : α → β → Prop} {xs : List α} {ys : List β}
    (related : List.Forall₂ R xs ys) {x : α} (member : x ∈ xs) : ∃ y ∈ ys, R x y := by
  induction related with
  | nil => exact absurd member List.not_mem_nil
  | @cons first value rest values here _ ih =>
    rcases List.mem_cons.mp member with rfl | later
    · exact ⟨value, List.mem_cons_self, here⟩
    · obtain ⟨y, known, holds⟩ := ih later
      exact ⟨y, List.mem_cons_of_mem value known, holds⟩

theorem exists_of_mem_right {R : α → β → Prop} {xs : List α} {ys : List β}
    (related : List.Forall₂ R xs ys) {y : β} (member : y ∈ ys) : ∃ x ∈ xs, R x y :=
  exists_of_mem_left related.flip member

theorem mapM_cons_ok {x : α} {xs : List α} {y : β} (reads : read x = .ok y) :
    (x :: xs).mapM read = (xs.mapM read).map (y :: ·) := by
  rw [List.mapM_cons, reads]
  cases later : xs.mapM read with
  | error error => simp [bind, Except.bind, Except.map]
  | ok ys => simp [bind, Except.bind, pure, Except.pure, Except.map]

theorem mapM_cons_error {x : α} {xs : List α} {error : ε} (fails : read x = .error error) :
    (x :: xs).mapM read = .error error := by
  rw [List.mapM_cons, fails]
  rfl

/-- A traversal gives a list exactly if it is read element by element. -/
theorem mapM_eq_ok_iff {xs : List α} {ys : List β} :
    xs.mapM read = .ok ys ↔ List.Forall₂ (fun x y => read x = .ok y) xs ys := by
  induction xs generalizing ys with
  | nil => cases ys <;> simp [pure, Except.pure]
  | cons x xs ih =>
    cases first : read x with
    | error error => cases ys <;> simp [mapM_cons_error first, first]
    | ok y =>
      rw [mapM_cons_ok first]
      cases later : xs.mapM read with
      | error error => cases ys <;> simp [Except.map, ← ih, later]
      | ok found => cases ys <;> simp [Except.map, ← ih, later, first]

/-- A traversal fails exactly if an element fails, and with the failure of the first one. -/
theorem mapM_eq_error_iff {xs : List α} {error : ε} :
    xs.mapM read = .error error ↔ ∃ before x after, xs = before ++ x :: after ∧
      (∀ y ∈ before, ∃ value, read y = .ok value) ∧ read x = .error error := by
  induction xs with
  | nil => simp [pure, Except.pure]
  | cons x xs ih =>
    cases first : read x with
    | error failure =>
      -- No element before this one: the split of the list is after nothing.
      rw [mapM_cons_error first, Except.error.injEq]
      constructor
      · rintro rfl
        exact ⟨[], x, xs, rfl, by simp, first⟩
      · rintro ⟨before, bad, after, whole, good, fails⟩
        cases before with
        | nil =>
          obtain ⟨rfl, -⟩ := List.cons.inj whole
          exact Except.error.inj (first.symm.trans fails)
        | cons y before =>
          obtain ⟨rfl, -⟩ := List.cons.inj whole
          obtain ⟨value, reads⟩ := good x List.mem_cons_self
          rw [first] at reads
          cases reads
    | ok value =>
      have outer : (xs.mapM read).map (value :: ·) = .error error ↔ xs.mapM read = .error error := by
        cases xs.mapM read <;> simp [Except.map]
      rw [mapM_cons_ok first, outer, ih]
      -- The element that was read goes to the front of those before the failure, or comes from there.
      constructor
      · rintro ⟨before, bad, after, rfl, good, fails⟩
        refine ⟨x :: before, bad, after, rfl, ?_, fails⟩
        intro y member
        rcases List.mem_cons.mp member with rfl | earlier
        · exact ⟨value, first⟩
        · exact good y earlier
      · rintro ⟨before, bad, after, whole, good, fails⟩
        cases before with
        | nil =>
          obtain ⟨rfl, -⟩ := List.cons.inj whole
          rw [first] at fails
          cases fails
        | cons y before =>
          obtain ⟨-, rfl⟩ := List.cons.inj whole
          exact ⟨before, bad, after, rfl, fun z member => good z (List.mem_cons_of_mem _ member), fails⟩

/-- A traversal changes nothing exactly if it changes no element. -/
theorem mapM_eq_self_iff {f : α → Option α} {xs : List α} :
    xs.mapM f = some xs ↔ ∀ x ∈ xs, f x = some x := by
  induction xs with
  | nil => simp
  | cons x rest ih =>
    rw [List.mapM_cons, List.forall_mem_cons, ← ih]
    cases first : f x with
    | none => simp
    | some y => cases later : rest.mapM f <;> simp

/-- Reading what was written, one after the other, gives the values back. -/
theorem mapM_read_write {m : Type → Type} [Monad m] [LawfulMonad m] {read : β → m α}
    {write : α → β} {values : List α} (reads : ∀ value ∈ values, read (write value) = pure value) :
    (values.map write).mapM read = pure values := by
  induction values with
  | nil => rfl
  | cons value rest ih =>
    have later := ih fun value member => reads value (List.mem_cons_of_mem _ member)
    rw [List.map_cons, List.mapM_cons, reads value List.mem_cons_self, pure_bind, later, pure_bind]

end CertLifecycle.Collection
