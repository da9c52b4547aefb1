import CertLifecycle.Proofs.Collection.SameElements
import CertLifecycle.Proofs.Text.ByteOrder
import CertLifecycle.Resource.KeyUsage

/-!
What the comparison of lists as sets can be relied on for, whatever the elements are. Their equality may be
coarser than identity, as long as the order agrees with it. Main result: `compared_as_sets`.
-/

namespace CertLifecycle.Collection

/-- A list has the values of another one in some order, and has some of them once more or several times. -/
def Rearranges {α : Type} (ys xs : List α) : Prop :=
  ∃ again, again ⊆ xs ∧ ys.Perm (xs ++ again)

theorem Rearranges.refl {α : Type} (xs : List α) : Rearranges xs xs :=
  ⟨[], List.nil_subset xs, by rw [List.append_nil]⟩

theorem Rearranges.contains_eq {α : Type} [BEq α] {xs ys : List α} (rearranges : Rearranges ys xs) (x : α) :
    ys.contains x = xs.contains x := by
  obtain ⟨again, known, order⟩ := rearranges
  rw [order.contains_eq, List.contains_append, Bool.or_eq_left_iff_imp]
  -- What occurs among the repetitions is equal to one of them, which is a member of the list itself.
  intro occurs
  obtain ⟨y, member, same⟩ := List.contains_iff_exists_mem_beq.mp occurs
  exact List.contains_iff_exists_mem_beq.mpr ⟨y, known member, same⟩

theorem rearranges_reversedWithRepeat {α : Type} (xs : List α) : Rearranges (reversedWithRepeat xs) xs := by
  refine ⟨xs.head?.toList, fun x first => ?_, xs.reverse_perm.append_right _⟩
  exact List.mem_of_head? (Option.mem_toList.mp first)

/-- The same elements occur in two lists if those of either one occur in the other. -/
theorem contains_eq_iff {α : Type} [BEq α] [EquivBEq α] {xs ys : List α} :
    (∀ x, xs.contains x = ys.contains x) ↔
      (∀ x ∈ xs, ys.contains x = true) ∧ ∀ y ∈ ys, xs.contains y = true := by
  -- What occurs in a list is equal to one of its members, and occurs in the other list along with it.
  have carried {xs ys : List α} (members : ∀ x ∈ xs, ys.contains x = true) (x : α)
      (occurs : xs.contains x = true) : ys.contains x = true := by
    obtain ⟨y, member, same⟩ := List.contains_iff_exists_mem_beq.mp occurs
    rw [List.contains_congr same]
    exact members y member
  constructor
  · intro same
    refine ⟨fun x member => ?_, fun y member => ?_⟩
    · rw [← same x]
      exact List.elem_eq_true_of_mem member
    · rw [same y]
      exact List.elem_eq_true_of_mem member
  · rintro ⟨first, second⟩ x
    exact Bool.eq_iff_iff.mpr ⟨carried first x, carried second x⟩

/-- The comparison of lists as sets is right for one type of elements. -/
structure ComparedAsSets (α : Type) [Ord α] [BEq α] : Prop where
  /-- Two lists are found to agree exactly if each element of either one occurs in the other. -/
  decides (xs ys : List α) : sameElements xs ys = true ↔
    (∀ x ∈ xs, ys.contains x = true) ∧ ∀ y ∈ ys, xs.contains y = true
  /-- Where only identical elements are equal, this says that either list has the members of the other. -/
  members [LawfulBEq α] (xs ys : List α) : sameElements xs ys = true ↔
    (∀ x ∈ xs, x ∈ ys) ∧ ∀ y ∈ ys, y ∈ xs
  equivalence : Equivalence fun xs ys : List α => sameElements xs ys = true
  /-- Neither order nor repetition counts, on either side. -/
  rearranged {xs xs' ys ys' : List α} : Rearranges xs' xs → Rearranges ys' ys →
    sameElements xs' ys' = sameElements xs ys
  backwards (xs : List α) : sameElements xs (reversedWithRepeat xs) = true

theorem ComparedAsSets.of_order (α : Type) [Ord α] [BEq α] [Std.TransOrd α] [Std.LawfulBEqOrd α] :
    ComparedAsSets α where
  decides xs ys := sameElements_iff_contains_eq.trans contains_eq_iff
  members xs ys := by
    rw [sameElements_iff_contains_eq, contains_eq_iff]
    simp only [List.contains_iff_mem]
  equivalence := by
    simp only [sameElements_iff_contains_eq]
    exact ⟨fun _ _ => rfl, fun same x => (same x).symm, fun first second x => (first x).trans (second x)⟩
  rearranged first second := by
    rw [Bool.eq_iff_iff, sameElements_iff_contains_eq, sameElements_iff_contains_eq]
    simp only [first.contains_eq, second.contains_eq]
  backwards xs := by
    rw [sameElements_iff_contains_eq]
    exact fun x => ((rearranges_reversedWithRepeat xs).contains_eq x).symm

/-- Lists are compared as sets for all elements whose order agrees with their equality. Among these are texts
in the order of their bytes, integers, usages in the order in which they are declared, and lists of texts in
lexicographic order. -/
theorem compared_as_sets :
    (∀ (α : Type) [Ord α] [BEq α] [Std.TransOrd α] [Std.LawfulBEqOrd α], ComparedAsSets α) ∧
    (ComparedAsSets String ∧
      ∀ s t : String, compare s t = compare (Text.utf8 s) (Text.utf8 t)) ∧
    (ComparedAsSets Int ∧ ∀ m n : Int, compare m n = .lt ↔ m < n) ∧
    (ComparedAsSets KeyUsage ∧
      ∀ a b : KeyUsage, compare a b = compare a.ctorIdx b.ctorIdx) ∧
    ComparedAsSets (List String) ∧
      ∀ xs ys : List String, compare xs ys = .lt ↔ List.Lex (fun s t => compare s t = .lt) xs ys :=
  ⟨ComparedAsSets.of_order, ⟨ComparedAsSets.of_order String, fun s t => (Text.compare_utf8 s t).symm⟩,
    ⟨ComparedAsSets.of_order Int, fun _ _ => Int.compare_eq_lt⟩,
    ⟨ComparedAsSets.of_order KeyUsage, fun a b => (KeyUsage.compare_ctorIdx a b).symm⟩,
    ComparedAsSets.of_order (List String), fun _ _ => Text.compare_eq_lt_iff_lex⟩

/-- The order inside of an element counts, and so does the case of a letter. -/
theorem variedLists_compared :
    sameElements ["é", "z", "é"] ["z", "é"] = true ∧ sameElements ["a"] ["a", "A"] = false ∧
      sameElements [3, -1, 3] (reversedWithRepeat [-1, 3] : List Int) = true ∧
      sameElements [KeyUsage.any, .signing, .any] [.signing, .any] = true ∧
      sameElements [["a", "b"]] [["b", "a"]] = false := by
  obtain ⟨general, ⟨texts, _⟩, ⟨numbers, _⟩, ⟨usages, _⟩, lists, _⟩ := compared_as_sets
  refine ⟨((general String).decides _ _).mpr (by decide), ?_, ?_, (usages.members _ _).mpr (by decide), ?_⟩
  · rw [← Bool.not_eq_true, texts.members]
    decide
  · have again : Rearranges [3, -1, 3] [(-1 : Int), 3] := ⟨[3], by decide, by decide⟩
    rw [numbers.rearranged again (.refl _)]
    exact numbers.backwards [-1, 3]
  · rw [← Bool.not_eq_true, lists.members]
    decide

end CertLifecycle.Collection
