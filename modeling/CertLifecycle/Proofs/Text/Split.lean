import CertLifecycle.Text.Split
import Mathlib.Data.List.Infix

/-!
Texts put together are taken apart again. Main results: `pieces_join`, pieces without the separator come
back from the joined text, and `cutAt?_append`, a text is cut where a mark was put, unless the mark
occurs earlier.
-/

namespace CertLifecycle.Text

theorem pieces_of_not_mem {separator : Char} {cs : List Char} (clean : separator ∉ cs) :
    pieces separator cs = [cs] := by
  induction cs with
  | nil => rfl
  | cons c rest ih =>
    rw [List.mem_cons, not_or] at clean
    rw [pieces, if_neg (Ne.symm clean.1), ih clean.2]

/-- A text with a separator in it is cut there, and each side by itself. -/
theorem pieces_append (separator : Char) (front back : List Char) :
    pieces separator (front ++ separator :: back) = pieces separator front ++ pieces separator back := by
  induction front with
  | nil => rw [List.nil_append, pieces, pieces, if_pos rfl, List.singleton_append]
  | cons c rest ih =>
    obtain ⟨piece, others, cut⟩ := List.exists_cons_of_ne_nil (pieces_ne_nil separator rest)
    rw [List.cons_append, pieces, pieces, ih, cut]
    split <;> rfl

theorem pieces_append_separator {separator : Char} {piece : List Char} (clean : separator ∉ piece)
    (rest : List Char) :
    pieces separator (piece ++ separator :: rest) = piece :: pieces separator rest := by
  rw [pieces_append, pieces_of_not_mem clean, List.singleton_append]

theorem not_mem_of_mem_pieces {separator : Char} {cs piece : List Char}
    (member : piece ∈ pieces separator cs) : separator ∉ piece := by
  induction cs generalizing piece with
  | nil =>
    rw [pieces, List.mem_singleton] at member
    simp [member]
  | cons c rest ih =>
    rw [pieces] at member
    by_cases separates : c = separator
    · rw [if_pos separates, List.mem_cons] at member
      rcases member with rfl | later
      · exact List.not_mem_nil
      · exact ih later
    · rw [if_neg separates] at member
      obtain ⟨first, others, cut⟩ := List.exists_cons_of_ne_nil (pieces_ne_nil separator rest)
      rw [cut] at member ih
      rcases List.mem_cons.mp member with rfl | later
      · rw [List.mem_cons, not_or]
        exact ⟨Ne.symm separates, ih List.mem_cons_self⟩
      · exact ih (List.mem_cons_of_mem first later)

/-- Pieces without the separator come back from the joined text. -/
theorem pieces_join {separator : Char} {parts : List (List Char)} (filled : parts ≠ [])
    (clean : ∀ part ∈ parts, separator ∉ part) : pieces separator (join [separator] parts) = parts := by
  induction parts with
  | nil => exact absurd rfl filled
  | cons part others ih =>
    have first := clean part List.mem_cons_self
    cases others with
    | nil => exact pieces_of_not_mem first
    | cons other more =>
      have later := ih (List.cons_ne_nil _ _) fun part member =>
        clean part (List.mem_cons_of_mem _ member)
      rw [join, List.append_assoc, List.singleton_append, pieces_append_separator first, later]
      exact List.cons_ne_nil _ _

theorem prefix_join (separator part : List Char) (others : List (List Char)) :
    part <+: join separator (part :: others) := by
  cases others with
  | nil => exact List.prefix_rfl
  | cons other more =>
    rw [join, List.append_assoc]
    · exact List.prefix_append part _
    · exact List.cons_ne_nil _ _

theorem mem_join {separator parts} {c : Char} (member : c ∈ join separator parts) :
    c ∈ separator ∨ ∃ part ∈ parts, c ∈ part := by
  induction parts with
  | nil => simp [join] at member
  | cons part others ih =>
    cases others with
    | nil => exact .inr ⟨part, List.mem_cons_self, member⟩
    | cons other more =>
      rw [join, List.mem_append, List.mem_append] at member
      · rcases member with (first | mark) | later
        · exact .inr ⟨part, List.mem_cons_self, first⟩
        · exact .inl mark
        · rcases ih later with mark | ⟨piece, known, inside⟩
          · exact .inl mark
          · exact .inr ⟨piece, List.mem_cons_of_mem _ known, inside⟩
      · exact List.cons_ne_nil _ _

/-- No cut is found exactly where the mark does not occur. -/
theorem cutAt?_eq_none_iff {mark cs : List Char} : cutAt? mark cs = none ↔ ¬mark <:+: cs := by
  induction cs with
  | nil => cases mark <;> simp [cutAt?]
  | cons c rest ih =>
    rw [cutAt?, List.infix_cons_iff, not_or]
    split
    next here =>
      have starts := List.isPrefixOf_iff_prefix.mp here
      simp [starts]
    next other =>
      have absent : ¬mark <+: c :: rest := fun starts => other (List.isPrefixOf_iff_prefix.mpr starts)
      rw [Option.map_eq_none_iff, ih]
      exact (and_iff_right absent).symm

theorem not_infix_of_not_mem {m : Char} {mark cs : List Char} (member : m ∈ mark) (absent : m ∉ cs) :
    ¬mark <:+: cs :=
  fun inside => absent (inside.subset member)

theorem cutAt?_of_not_mem {m : Char} {mark cs : List Char} (member : m ∈ mark) (absent : m ∉ cs) :
    cutAt? mark cs = none :=
  cutAt?_eq_none_iff.mpr (not_infix_of_not_mem member absent)

/-- A text is cut at a mark unless the mark occurs before, which may take up all but the last of its
characters. -/
theorem cutAt?_append {mark front : List Char} (first : ¬mark <:+: front ++ mark.dropLast)
    (back : List Char) : cutAt? mark (front ++ mark ++ back) = some (front, back) := by
  induction front with
  | nil =>
    cases mark with
    | nil => exact absurd (List.nil_infix) first
    | cons m ms =>
      have starts : (m :: ms).isPrefixOf (m :: (ms ++ back)) = true :=
        List.isPrefixOf_iff_prefix.mpr ⟨back, rfl⟩
      rw [List.nil_append, List.cons_append, cutAt?, if_pos starts, ← List.cons_append, List.drop_left]
  | cons c rest ih =>
    rw [List.cons_append, List.infix_cons_iff, not_or] at first
    have later : ¬mark.isPrefixOf (c :: (rest ++ mark ++ back)) = true := by
      intro here
      -- The mark would lie in front of the end of the one that was put there.
      have starts := List.isPrefixOf_iff_prefix.mp here
      have within : c :: (rest ++ mark.dropLast) <+: c :: (rest ++ mark ++ back) := by
        rw [List.prefix_cons_inj, List.append_assoc, List.prefix_append_right_inj]
        exact (List.dropLast_prefix mark).trans (List.prefix_append mark back)
      refine first.1 (List.prefix_of_prefix_length_le starts within ?_)
      simp only [List.length_cons, List.length_append, List.length_dropLast]
      omega
    rw [List.cons_append, List.cons_append, cutAt?, if_neg later, ih first.2]
    rfl

/-- Characters that cannot start a mark can be passed over in the search for it. -/
theorem infix_append_iff_of_not_mem {m : Char} {ms front rest : List Char} (clean : m ∉ front) :
    m :: ms <:+: front ++ rest ↔ m :: ms <:+: rest := by
  induction front with
  | nil => rw [List.nil_append]
  | cons c others ih =>
    rw [List.mem_cons, not_or] at clean
    rw [List.cons_append, List.infix_cons_iff, ih clean.2, List.cons_prefix_cons]
    exact or_iff_right fun starts => clean.1 starts.1

/-- Nonempty pieces leave no two separators side by side, neither between them nor at the end. -/
theorem no_double_separator {separator : Char} {parts : List (List Char)}
    (filled : ∀ part ∈ parts, part ≠ []) (clean : ∀ part ∈ parts, separator ∉ part) :
    ¬[separator, separator] <:+: join [separator] parts ++ [separator] := by
  induction parts with
  | nil => exact fun double => absurd double.length_le (by simp [join])
  | cons part others ih =>
    have later := ih (fun part member => filled part (List.mem_cons_of_mem _ member)) fun part member =>
      clean part (List.mem_cons_of_mem _ member)
    have first := clean part List.mem_cons_self
    cases others with
    | nil =>
      rw [join, infix_append_iff_of_not_mem first]
      exact fun double => absurd double.length_le (by simp)
    | cons other more =>
      rw [join, List.append_assoc, List.append_assoc, infix_append_iff_of_not_mem first,
        List.singleton_append, List.infix_cons_iff, not_or, List.cons_prefix_cons]
      · refine ⟨fun starts => ?_, later⟩
        -- The next piece is not empty, and what it starts with is not the separator.
        have known : other ∈ part :: other :: more := by simp
        obtain ⟨c, rest, shape⟩ := List.exists_cons_of_ne_nil (filled other known)
        obtain ⟨tail, whole⟩ := prefix_join [separator] other more
        have differs := clean other known
        rw [shape, List.mem_cons, not_or] at differs
        rw [← whole, shape, List.cons_append, List.cons_append, List.cons_prefix_cons] at starts
        exact differs.1 starts.2.1
      · exact List.cons_ne_nil _ _

/-- Two texts with a mark between their parts are equal if the marks match, or if one of them lies inside
the later part of the other text. -/
theorem append_mark_eq_iff (mark : Char) (s n t m : List Char) :
    s ++ mark :: n = t ++ mark :: m ↔
      s = t ∧ n = m ∨ (∃ k, t = s ++ mark :: k ∧ n = k ++ mark :: m) ∨
        ∃ k, s = t ++ mark :: k ∧ m = k ++ mark :: n := by
  rw [List.append_eq_append_iff]
  constructor
  -- One text goes on where the other is cut: right at the mark, or some way behind it.
  · rintro (⟨gap, longer, tail⟩ | ⟨gap, longer, tail⟩)
    · cases gap with
      | nil =>
        rw [List.nil_append, List.cons.injEq] at tail
        exact .inl ⟨by rw [longer, List.append_nil], tail.2⟩
      | cons c k =>
        rw [List.cons_append, List.cons.injEq] at tail
        exact .inr (.inl ⟨k, by rw [longer, tail.1], tail.2⟩)
    · cases gap with
      | nil =>
        rw [List.nil_append, List.cons.injEq] at tail
        exact .inl ⟨by rw [longer, List.append_nil], tail.2.symm⟩
      | cons c k =>
        rw [List.cons_append, List.cons.injEq] at tail
        exact .inr (.inr ⟨k, by rw [longer, tail.1], tail.2⟩)
  · rintro (⟨rfl, rfl⟩ | ⟨k, rfl, rfl⟩ | ⟨k, rfl, rfl⟩)
    · exact .inl ⟨[], by simp⟩
    · exact .inl ⟨mark :: k, by simp⟩
    · exact .inr ⟨mark :: k, by simp⟩

/-- Without the mark in the later parts only the first of these is left. -/
theorem append_mark_inj {mark : Char} {n m : List Char} (clean : mark ∉ n) (clean' : mark ∉ m)
    (s t : List Char) : s ++ mark :: n = t ++ mark :: m ↔ s = t ∧ n = m := by
  rw [append_mark_eq_iff]
  refine or_iff_left ?_
  rintro (⟨k, _, rfl⟩ | ⟨k, _, rfl⟩)
  · exact clean (by simp)
  · exact clean' (by simp)

end CertLifecycle.Text
