import CertLifecycle.Text.Blank
import Mathlib.Data.List.DropRight

/-!
Trimming takes away the white space at both ends and nothing else. Main results: `exists_blank_around`, what
trimming takes away is white space, and `trim_append_of_solid`, a front that begins and ends with other
characters keeps its place.
-/

namespace CertLifecycle.Text

/-- White space only, possibly none. -/
def Blank (cs : List Char) : Prop :=
  ∀ c ∈ cs, isBlank c = true

theorem blank_nil : Blank [] := by simp [Blank]

theorem Blank.append {front back : List Char} (blank : Blank front) (blank' : Blank back) :
    Blank (front ++ back) := by
  intro c member
  rcases List.mem_append.mp member with early | late
  · exact blank c early
  · exact blank' c late

theorem Blank.not_mem {cs : List Char} (blank : Blank cs) {c : Char} (solid : isBlank c = false) :
    c ∉ cs := by
  intro member
  rw [blank c member] at solid
  cases solid

theorem trim_blank_append {front : List Char} (blank : Blank front) (cs : List Char) :
    trim (front ++ cs) = trim cs := by
  rw [trim, trim, List.dropWhile_append_of_pos blank]

theorem dropTrailing_append_blank {back : List Char} (blank : Blank back) (cs : List Char) :
    dropTrailing isBlank (cs ++ back) = dropTrailing isBlank cs := by
  have reversed : ∀ c ∈ back.reverse, isBlank c = true := by
    intro c member
    exact blank c (List.mem_reverse.mp member)
  rw [dropTrailing, dropTrailing, List.reverse_append, List.dropWhile_append_of_pos reversed]

theorem exists_blank_after (cs : List Char) :
    ∃ back, Blank back ∧ cs = dropTrailing isBlank cs ++ back := by
  refine ⟨cs.rtakeWhile isBlank, ?_, List.rdropWhile_append_rtakeWhile.symm⟩
  intro c member
  exact List.mem_rtakeWhile_imp member

theorem exists_blank_around (cs : List Char) :
    ∃ front back, Blank front ∧ Blank back ∧ cs = front ++ trim cs ++ back := by
  obtain ⟨back, blank, whole⟩ := exists_blank_after (cs.dropWhile isBlank)
  refine ⟨cs.takeWhile isBlank, back, ?_, blank, ?_⟩
  · intro c member
    exact List.mem_takeWhile_imp member
  · calc cs = cs.takeWhile isBlank ++ cs.dropWhile isBlank := List.takeWhile_append_dropWhile.symm
      _ = cs.takeWhile isBlank ++ trim cs ++ back := by rw [List.append_assoc, trim, ← whole]

theorem trim_eq_nil_iff {cs : List Char} : trim cs = [] ↔ Blank cs := by
  constructor
  · intro empty c member
    obtain ⟨front, back, before, after, whole⟩ := exists_blank_around cs
    rw [empty, List.append_nil] at whole
    rw [whole, List.mem_append] at member
    rcases member with early | late
    · exact before c early
    · exact after c late
  · intro blank
    have stripped := trim_blank_append blank []
    rwa [List.append_nil, trim_nil] at stripped

/-- What a text begins with up to a character that is no white space is not trimmed. -/
theorem dropTrailing_append_of_solid {front : List Char} {c : Char} (ends : front.getLast? = some c)
    (solid : isBlank c = false) (cs : List Char) :
    dropTrailing isBlank (front ++ cs) = front ++ dropTrailing isBlank cs := by
  obtain ⟨begins, rfl⟩ := List.getLast?_eq_some_iff.mp ends
  -- Dropping works from the end, and so does the induction: the last character goes on both sides or on
  -- neither.
  induction cs using List.reverseRecOn with
  | nil =>
    have kept : dropTrailing isBlank (begins ++ [c]) = begins ++ [c] :=
      List.rdropWhile_concat_neg isBlank begins c (by simp [solid])
    rw [List.append_nil, kept]
    exact (List.append_nil _).symm
  | append_singleton rest last ih =>
    by_cases blank : isBlank last = true
    · have single : Blank [last] := by simpa [Blank] using blank
      rw [← List.append_assoc, dropTrailing_append_blank single, ih, dropTrailing_append_blank single]
    · have kept (xs : List Char) : dropTrailing isBlank (xs ++ [last]) = xs ++ [last] :=
        List.rdropWhile_concat_neg isBlank xs last blank
      rw [← List.append_assoc, kept, kept, List.append_assoc]

theorem trim_append_of_solid {front : List Char} {c d : Char} (begins : front.head? = some c)
    (ends : front.getLast? = some d) (solid : isBlank c = false) (solid' : isBlank d = false)
    (cs : List Char) : trim (front ++ cs) = front ++ dropTrailing isBlank cs := by
  have kept : (front ++ cs).dropWhile isBlank = front ++ cs := by
    obtain ⟨rest, rfl⟩ := List.head?_eq_some_iff.mp begins
    exact List.dropWhile_cons_of_neg (by simp [solid])
  rw [trim, kept, dropTrailing_append_of_solid ends solid']

/-- Trimming leaves a front of this kind alone and takes white space from the end at most. -/
theorem exists_trim_append_of_solid {front : List Char} {c d : Char} (begins : front.head? = some c)
    (ends : front.getLast? = some d) (solid : isBlank c = false) (solid' : isBlank d = false)
    (cs : List Char) :
    ∃ kept back, Blank back ∧ cs = kept ++ back ∧ trim (front ++ cs) = front ++ kept := by
  obtain ⟨back, blank, whole⟩ := exists_blank_after cs
  exact ⟨_, back, blank, whole, trim_append_of_solid begins ends solid solid' cs⟩

theorem trim_append_blank {back : List Char} (blank : Blank back) (cs : List Char) :
    trim (cs ++ back) = trim cs := by
  rw [trim, trim, List.dropWhile_append]
  split
  next empty =>
    -- The rest is blank too, and the front takes the end away.
    have gone : back.dropWhile isBlank = [] := List.dropWhile_eq_nil_iff.mpr blank
    rw [gone, List.isEmpty_iff.mp empty]
  next => exact dropTrailing_append_blank blank _

theorem trim_of_no_blank {cs : List Char} (dense : ∀ c ∈ cs, isBlank c = false) : trim cs = cs := by
  have keep {xs : List Char} (dense : ∀ c ∈ xs, isBlank c = false) : xs.dropWhile isBlank = xs := by
    cases xs with
    | nil => rfl
    | cons c rest => rw [List.dropWhile_cons_of_neg (by simp [dense c List.mem_cons_self])]
  have back : ∀ c ∈ cs.reverse, isBlank c = false := fun c member =>
    dense c (List.mem_reverse.mp member)
  rw [trim, keep dense, dropTrailing, keep back, List.reverse_reverse]

end CertLifecycle.Text
