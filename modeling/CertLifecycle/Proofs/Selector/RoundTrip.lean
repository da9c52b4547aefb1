import CertLifecycle.Proofs.Collection.Traversal
import CertLifecycle.Proofs.Text.Split
import CertLifecycle.Proofs.Text.Trim
import CertLifecycle.Selector.Parser

/-!
Printed selectors are read back exactly if they are well formed. No mark of the notation can stand in a
well-formed key or value, so each requirement is cut where it was put together. Main result:
`parse_text_iff_wellFormed`, with every selector that was read among those that survive.
-/

namespace CertLifecycle

open Collection (exists_of_mem_right mapM_eq_ok_iff mapM_read_write)
open Text (cutAt? cutAt?_append cutAt?_eq_none_iff cutAt?_of_not_mem infix_append_iff_of_not_mem join
  not_infix_of_not_mem pieces_join trim_of_no_blank)

namespace Requirement

/-- A nonempty key of key characters, and a value of value characters if there is a value. -/
structure WellFormed (requirement : Requirement) : Prop where
  named : requirement.key ≠ ""
  key_chars : ∀ c ∈ requirement.key.toList, isKeyChar c = true
  value_chars : ∀ value, requirement.value? = some value →
    ∀ c ∈ value.toList, isValueChar c = true

theorem isKeyChar_of_isValueChar {c : Char} (inValue : isValueChar c = true) : isKeyChar c = true := by
  rw [isKeyChar, inValue, Bool.true_or]

/-- The characters of keys are visible ASCII characters. -/
theorem code_of_isKeyChar {c : Char} (inKey : isKeyChar c = true) :
    0x20 < c.toNat ∧ c.toNat < 0x80 := by
  delta isKeyChar isValueChar Char.isAlphanum Char.isAlpha Char.isUpper Char.isLower Char.isDigit
    at inKey
  simp only [Bool.or_eq_true, Bool.and_eq_true, decide_eq_true_eq, beq_iff_eq,
    UInt32.le_iff_toNat_le, ge_iff_le] at inKey
  rcases inKey with ((((((letter | letter) | digit) | rfl) | rfl) | rfl) | rfl)
  · exact ⟨Nat.lt_of_lt_of_le (by decide) letter.1, Nat.lt_of_le_of_lt letter.2 (by decide)⟩
  · exact ⟨Nat.lt_of_lt_of_le (by decide) letter.1, Nat.lt_of_le_of_lt letter.2 (by decide)⟩
  · exact ⟨Nat.lt_of_lt_of_le (by decide) digit.1, Nat.lt_of_le_of_lt digit.2 (by decide)⟩
  all_goals decide

theorem not_isBlank_of_isKeyChar {c : Char} (inKey : isKeyChar c = true) : Text.isBlank c = false := by
  obtain ⟨low, high⟩ := code_of_isKeyChar inKey
  simp [Text.isBlank, Text.inRanges, Text.blankRanges]
  omega

theorem trimmed_of_key_chars {s : String} (plain : ∀ c ∈ s.toList, isKeyChar c = true) :
    trimmed s.toList = s := by
  rw [trimmed, trim_of_no_blank fun c member => not_isBlank_of_isKeyChar (plain c member),
    String.ofList_toList]

theorem not_mem_of_key_chars {s : String} (plain : ∀ c ∈ s.toList, isKeyChar c = true) {c : Char}
    (mark : isKeyChar c = false) : c ∉ s.toList := by
  intro member
  rw [plain c member] at mark
  exact absurd mark (by decide)

/-- The check passes what is well formed and changes nothing. -/
theorem check_eq_ok_iff {part : List Char} {requirement checked : Requirement} :
    check part requirement = .ok checked ↔ requirement = checked ∧ requirement.WellFormed := by
  unfold check
  split
  next empty =>
    refine iff_of_false (by simp) fun known => ?_
    exact known.2.named (by simpa using empty)
  next named =>
    split
    next bad =>
      refine iff_of_false (by simp) fun known => ?_
      exact absurd (List.all_eq_true.mpr known.2.key_chars) (by simpa using bad)
    next good =>
      have key : ∀ c ∈ requirement.key.toList, isKeyChar c = true := by simpa using good
      cases value : requirement.value? with
      | none =>
        rw [Except.ok.injEq]
        exact (and_iff_left ⟨by simpa using named, key, by simp [value]⟩).symm
      | some value' =>
        dsimp only
        split
        next plain =>
          rw [Except.ok.injEq]
          refine (and_iff_left ⟨by simpa using named, key, ?_⟩).symm
          simpa [value] using plain
        next bad =>
          refine iff_of_false (by simp) fun known => bad ?_
          exact List.all_eq_true.mpr (known.2.value_chars value' value)

/-- Without an equals sign only a leading exclamation mark counts. -/
theorem reading_of_no_equals {part : List Char} (noEqual : '=' ∉ part) :
    reading part = if part.head? = some '!' then .isAbsent (trimmed part.tail)
      else .isPresent (trimmed part) := by
  have absent {mark : List Char} (member : '=' ∈ mark) : cutAt? mark part = none :=
    cutAt?_of_not_mem member noEqual
  unfold reading
  rw [absent (by simp), absent (by simp), absent (by simp)]
  dsimp only [Option.or]
  split
  next => rfl
  next other =>
    refine (if_neg fun head => ?_).symm
    exact other part.tail (List.cons_head?_tail head).symm

section Cut

variable {before after : List Char}

/-- The first "!=" decides, whatever comes after it. -/
theorem reading_of_unequal (clean : '=' ∉ before) :
    reading (before ++ ['!', '='] ++ after) = .notEquals (trimmed before) (trimmed after) := by
  have first : ¬['!', '='] <:+: before ++ ['!', '='].dropLast := by
    refine not_infix_of_not_mem (m := '=') (by simp) ?_
    rw [List.mem_append, not_or]
    exact ⟨clean, by decide⟩
  unfold reading
  rw [cutAt?_append first]

/-- The first "==" decides if there is no exclamation mark. -/
theorem reading_of_double (clean : '=' ∉ before) (noBang : '!' ∉ before ++ after) :
    reading (before ++ ['=', '='] ++ after) = .equals (trimmed before) (trimmed after) := by
  have noBang' : '!' ∉ before ++ ['=', '='] ++ after := by
    rw [List.mem_append, not_or] at noBang
    simp [noBang]
  have first : ¬['=', '='] <:+: before ++ ['=', '='].dropLast := by
    rw [infix_append_iff_of_not_mem clean]
    intro double
    exact absurd double.length_le (by simp)
  unfold reading
  rw [cutAt?_of_not_mem (m := '!') (by simp) noBang', cutAt?_append first]
  dsimp only [Option.or]

/-- A lone equals sign decides if there is no exclamation mark. -/
theorem reading_of_single (clean : '=' ∉ before) (clean' : '=' ∉ after)
    (noBang : '!' ∉ before ++ after) :
    reading (before ++ ['='] ++ after) = .equals (trimmed before) (trimmed after) := by
  have noBang' : '!' ∉ before ++ ['='] ++ after := by
    rw [List.mem_append, not_or] at noBang
    simp [noBang]
  -- There is one equals sign only, so no two of them stand side by side.
  have single : ¬['=', '='] <:+: before ++ ['='] ++ after := by
    rw [List.append_assoc, infix_append_iff_of_not_mem clean, List.singleton_append,
      List.infix_cons_iff, not_or, List.cons_prefix_cons]
    refine ⟨fun starts => ?_, not_infix_of_not_mem (m := '=') (by simp) clean'⟩
    exact clean' (starts.2.subset (by simp))
  have first : ¬['='] <:+: before ++ ['='].dropLast := by
    rw [List.dropLast_singleton, List.append_nil]
    exact not_infix_of_not_mem (m := '=') (by simp) clean
  unfold reading
  rw [cutAt?_of_not_mem (m := '!') (by simp) noBang', cutAt?_eq_none_iff.mpr single,
    cutAt?_append first]
  dsimp only [Option.or]

end Cut

section Reading

variable {key value : String} (plain : ∀ c ∈ key.toList, isKeyChar c = true)
  (plain' : ∀ c ∈ value.toList, isKeyChar c = true)

include plain

theorem reading_isPresent : reading key.toList = .isPresent key := by
  have noBang : '!' ∉ key.toList := not_mem_of_key_chars plain (by decide)
  rw [reading_of_no_equals (not_mem_of_key_chars plain (by decide)),
    if_neg fun head => noBang (List.mem_of_head? head), trimmed_of_key_chars plain]

theorem reading_isAbsent : reading ('!' :: key.toList) = .isAbsent key := by
  have noEqual : '=' ∉ '!' :: key.toList := by
    rw [List.mem_cons, not_or]
    exact ⟨by decide, not_mem_of_key_chars plain (by decide)⟩
  rw [reading_of_no_equals noEqual, if_pos List.head?_cons, List.tail_cons,
    trimmed_of_key_chars plain]

include plain'

theorem reading_notEquals :
    reading (key.toList ++ ['!', '='] ++ value.toList) = .notEquals key value := by
  rw [reading_of_unequal (not_mem_of_key_chars plain (by decide)), trimmed_of_key_chars plain,
    trimmed_of_key_chars plain']

theorem reading_equals : reading (key.toList ++ ['='] ++ value.toList) = .equals key value := by
  have noBang : '!' ∉ key.toList ++ value.toList := by
    rw [List.mem_append, not_or]
    exact ⟨not_mem_of_key_chars plain (by decide), not_mem_of_key_chars plain' (by decide)⟩
  rw [reading_of_single (not_mem_of_key_chars plain (by decide))
    (not_mem_of_key_chars plain' (by decide)) noBang, trimmed_of_key_chars plain,
    trimmed_of_key_chars plain']

end Reading

/-- A well-formed requirement is read back from its text. -/
theorem parse_text {requirement : Requirement} (wellFormed : requirement.WellFormed) :
    parse requirement.text.toList = .ok requirement := by
  rw [parse, check_eq_ok_iff]
  have whole : reading requirement.text.toList = requirement := by
    have key := wellFormed.key_chars
    have values {value : String} (set : requirement.value? = some value) :
        ∀ c ∈ value.toList, isKeyChar c = true := fun c member =>
      isKeyChar_of_isValueChar (wellFormed.value_chars value set c member)
    cases requirement with
    | equals key value =>
      rw [text, String.toList_append, String.toList_append]
      exact reading_equals key (values rfl)
    | notEquals key value =>
      rw [text, String.toList_append, String.toList_append]
      exact reading_notEquals key (values rfl)
    | isPresent key => exact reading_isPresent key
    | isAbsent key =>
      rw [text, String.toList_append]
      exact reading_isAbsent key
  rw [whole]
  exact ⟨rfl, wellFormed⟩

theorem wellFormed_of_parse {part : List Char} {requirement : Requirement}
    (parsed : parse part = .ok requirement) : requirement.WellFormed := by
  obtain ⟨same, wellFormed⟩ := check_eq_ok_iff.mp parsed
  exact same ▸ wellFormed

/-- The text of a well-formed requirement holds key characters and marks of operators only. -/
theorem char_of_mem_text {requirement : Requirement} (wellFormed : requirement.WellFormed) {c : Char}
    (member : c ∈ requirement.text.toList) : isKeyChar c = true ∨ c = '=' ∨ c = '!' := by
  have key := wellFormed.key_chars
  have values {value : String} (set : requirement.value? = some value) :
      ∀ c ∈ value.toList, isKeyChar c = true := fun c member =>
    isKeyChar_of_isValueChar (wellFormed.value_chars value set c member)
  cases requirement with
  | equals k value =>
    simp only [text, String.toList_append, List.mem_append] at member
    rcases member with (inKey | mark) | inValue
    · exact .inl (key c inKey)
    · exact .inr (.inl (by simpa using mark))
    · exact .inl (values rfl c inValue)
  | notEquals k value =>
    simp only [text, String.toList_append, List.mem_append] at member
    rcases member with (inKey | mark) | inValue
    · exact .inl (key c inKey)
    · exact .inr (by simpa [or_comm] using mark)
    · exact .inl (values rfl c inValue)
  | isPresent k => exact .inl (key c member)
  | isAbsent k =>
    simp only [text, String.toList_append, List.mem_append] at member
    rcases member with mark | inKey
    · exact .inr (.inr (by simpa using mark))
    · exact .inl (key c inKey)

theorem text_ne_nil {requirement : Requirement} (wellFormed : requirement.WellFormed) :
    requirement.text.toList ≠ [] := by
  have named := wellFormed.named
  cases requirement <;> simp_all [text, key]
end Requirement

namespace LabelSelector

open Requirement (char_of_mem_text)

variable {selector : LabelSelector}

/-- The parts of a printed selector are its requirements, untouched by cutting and trimming. -/
theorem parts_text (wellFormed : ∀ r ∈ selector.requirements, r.WellFormed) :
    parts selector.text.toList = selector.requirements.map fun r => r.text.toList := by
  have kept : ∀ part ∈ selector.requirements.map fun r => r.text.toList,
      ',' ∉ part ∧ Text.trim part = part ∧ part ≠ [] := by
    intro part member
    obtain ⟨r, known, rfl⟩ := List.mem_map.mp member
    have chars {c : Char} (inside : c ∈ r.text.toList) := char_of_mem_text (wellFormed r known) inside
    refine ⟨fun comma => ?_, trim_of_no_blank fun c inside => ?_,
      Requirement.text_ne_nil (wellFormed r known)⟩
    · exact absurd (chars comma) (by decide)
    · rcases chars inside with key | rfl | rfl
      · exact Requirement.not_isBlank_of_isKeyChar key
      · decide
      · decide
  by_cases empty : selector.requirements = []
  · rw [parts, text, empty]
    simp [join, Text.pieces, Text.trim_nil]
  · have cut := pieces_join (by simpa using empty) fun part member => (kept part member).1
    rw [parts, text, String.toList_ofList, cut, List.map_congr_left fun part member =>
      (kept part member).2.1, List.map_id', List.filter_eq_self]
    intro part member
    simpa using (kept part member).2.2

theorem parse_eq_mapM (s : String) :
    parse s = ((parts s.toList).mapM Requirement.parse).map .mk := rfl

theorem parse_eq_ok_iff_parts {s : String} :
    parse s = .ok selector ↔ List.Forall₂ (fun part requirement => Requirement.parse part = .ok requirement)
      (parts s.toList) selector.requirements := by
  rw [← mapM_eq_ok_iff, parse_eq_mapM]
  obtain ⟨requirements⟩ := selector
  cases (parts s.toList).mapM Requirement.parse <;> simp [Except.map]

theorem wellFormed_of_parse {s : String} (parsed : parse s = .ok selector) :
    ∀ r ∈ selector.requirements, r.WellFormed := by
  intro r member
  obtain ⟨part, _, found⟩ := exists_of_mem_right (parse_eq_ok_iff_parts.mp parsed) member
  exact Requirement.wellFormed_of_parse found

theorem parse_text_of_wellFormed (wellFormed : ∀ r ∈ selector.requirements, r.WellFormed) :
    parse selector.text = .ok selector := by
  have read : (selector.requirements.map fun r => r.text.toList).mapM Requirement.parse =
      .ok selector.requirements :=
    mapM_read_write fun r member => Requirement.parse_text (wellFormed r member)
  rw [parse_eq_mapM, parts_text wellFormed, read]
  rfl

/-- A selector is read back from its text exactly if all its requirements are well formed, however it
was put together. A selector that was read always is. -/
theorem parse_text_iff_wellFormed (selector : LabelSelector) :
    (parse selector.text = .ok selector ↔ ∀ r ∈ selector.requirements, r.WellFormed) ∧
      ∀ s, parse s = .ok selector → parse selector.text = .ok selector :=
  ⟨⟨wellFormed_of_parse, parse_text_of_wellFormed⟩, fun _ parsed =>
    parse_text_of_wellFormed (wellFormed_of_parse parsed)⟩

-- A comma in a value is not escaped, so the text reads as another selector.
example : parse (everything.withEquals "app" "a,b").text = .ok ⟨[.equals "app" "a", .isPresent "b"]⟩ := by
  decide

end LabelSelector

end CertLifecycle
