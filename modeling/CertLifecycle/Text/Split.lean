/-!
Cutting a text: into the pieces between a separator, or in two at the first place where a mark
stands.
-/

namespace CertLifecycle.Text

/-- The pieces between the separators; a text without separator is one piece. -/
def pieces (separator : Char) : List Char → List (List Char)
  | [] => [[]]
  | c :: rest =>
    if c = separator then [] :: pieces separator rest
    else
      match pieces separator rest with
      | [] => [[c]]
      | piece :: others => (c :: piece) :: others

/-- Joins pieces with a separator between neighbours. -/
def join (separator : List Char) : List (List Char) → List Char
  | [] => []
  | [piece] => piece
  | piece :: others => piece ++ separator ++ join separator others

/-- What stands before and after the first occurrence of a mark. -/
def cutAt? (mark : List Char) : List Char → Option (List Char × List Char)
  | [] => if mark.isEmpty then some ([], []) else none
  | c :: rest =>
    if mark.isPrefixOf (c :: rest) then some ([], (c :: rest).drop mark.length)
    else (cutAt? mark rest).map fun (before, after) => (c :: before, after)

/-- There is always a piece. -/
theorem pieces_ne_nil (separator : Char) (cs : List Char) : pieces separator cs ≠ [] := by
  cases cs with
  | nil => simp [pieces]
  | cons c rest =>
    rw [pieces]
    split
    · simp
    · split <;> simp

/-- Joining the pieces again gives the text back. -/
theorem join_pieces (separator : Char) (cs : List Char) :
    join [separator] (pieces separator cs) = cs := by
  induction cs with
  | nil => rfl
  | cons c rest ih =>
    rw [pieces]
    have some_piece := pieces_ne_nil separator rest
    revert ih some_piece
    cases pieces separator rest with
    | nil => simp
    | cons piece others =>
      intro ih _
      by_cases separates : c = separator
      · simp only [separates, if_true, join, List.nil_append]
        rw [ih]
        rfl
      · simp only [separates, if_false]
        cases others with
        | nil => simpa [join] using ih
        | cons other more => simpa [join] using ih

/-- A cut leaves out the mark and nothing else. -/
theorem eq_append_of_cutAt? {mark cs before after : List Char}
    (cut : cutAt? mark cs = some (before, after)) : cs = before ++ mark ++ after := by
  induction cs generalizing before with
  | nil =>
    simp only [cutAt?] at cut
    split at cut
    · simp_all
    · exact absurd cut (by simp)
  | cons c rest ih =>
    rw [cutAt?] at cut
    split at cut
    next marked =>
      obtain ⟨back, whole⟩ := List.isPrefixOf_iff_prefix.1 marked
      simp only [Option.some.injEq, Prod.mk.injEq] at cut
      rw [← cut.1, ← cut.2, ← whole]
      simp
    next =>
      obtain ⟨⟨front, back⟩, found, same⟩ := Option.map_eq_some_iff.1 cut
      simp only [Prod.mk.injEq] at same
      obtain ⟨rfl, rfl⟩ := same
      rw [ih found]
      simp

end CertLifecycle.Text
