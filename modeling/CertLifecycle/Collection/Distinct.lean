/-!
Lists compared as sets: order and repetition do not count. Each list is turned into the ascending
list of its distinct elements, and those are compared. Main result: the same elements occur in that list.
-/

namespace CertLifecycle.Collection

variable {α : Type} [Ord α]

/-- Puts an element into its place in an ascending list, unless it is already there. -/
def insertDistinct (x : α) : List α → List α
  | [] => [x]
  | y :: rest =>
    match compare x y with
    | .lt => x :: y :: rest
    | .eq => y :: rest
    | .gt => y :: insertDistinct x rest

/-- The distinct elements of a list in ascending order. -/
def distinct (xs : List α) : List α :=
  xs.foldl (fun found x => insertDistinct x found) []

/-- Whether two lists hold the same distinct elements. -/
def sameElements [BEq α] (xs ys : List α) : Bool :=
  distinct xs == distinct ys

/-- The list backwards, followed by its first element once more: another list of the same set. -/
def reversedWithRepeat {α : Type} (xs : List α) : List α :=
  xs.reverse ++ xs.head?.toList

section Occurrence

/-- Insertion adds the new element and nothing else. -/
theorem mem_of_mem_insertDistinct {x y : α} {xs : List α} (member : y ∈ insertDistinct x xs) :
    y = x ∨ y ∈ xs := by
  induction xs with
  | nil => simpa [insertDistinct] using member
  | cons first rest ih =>
    rw [insertDistinct] at member
    split at member
    next => exact List.mem_cons.mp member
    next => exact .inr member
    next =>
      rcases List.mem_cons.mp member with rfl | later
      · exact .inr List.mem_cons_self
      · exact (ih later).imp_right (List.mem_cons_of_mem _)

variable [BEq α] [Std.TransOrd α] [Std.LawfulBEqOrd α]

theorem contains_insertDistinct (x y : α) (xs : List α) :
    (insertDistinct x xs).contains y = (y == x || xs.contains y) := by
  induction xs with
  | nil => simp [insertDistinct]
  | cons first rest ih =>
    rw [insertDistinct]
    split
    next => rw [List.contains_cons]
    -- The new element is left out, but one that is equal to it is there in its place.
    next same =>
      rw [List.contains_cons, BEq.congr_right (Std.compare_eq_iff_beq.mp same), ← Bool.or_assoc,
        Bool.or_self]
    next => rw [List.contains_cons, List.contains_cons, ih, Bool.or_left_comm]

/-- The same elements occur among the distinct elements of a list as in the list. -/
theorem contains_distinct (x : α) (xs : List α) : (distinct xs).contains x = xs.contains x := by
  -- The fold starts from any list, for after one step it is no longer the empty one.
  have collected : ∀ found : List α,
      (xs.foldl (fun found y => insertDistinct y found) found).contains x =
        (found.contains x || xs.contains x) := by
    induction xs with
    | nil => simp
    | cons first rest ih =>
      intro found
      rw [List.foldl_cons, ih, contains_insertDistinct, List.contains_cons, Bool.or_assoc,
        Bool.or_left_comm]
  exact collected []

end Occurrence

end CertLifecycle.Collection
