import CertLifecycle.Proofs.Collection.Traversal
import CertLifecycle.Proofs.Selector.RoundTrip
import CertLifecycle.Proofs.Text.Trim

/-!
The grammar of label selectors. `Requirement.Reads` says without computing which parts of a selector are
spellings of which requirement. The reader never looks at a grammar: it cuts a part at the first mark and
checks what is left and right of it. Main result: `parse_follows_grammar`, it still accepts exactly the
spellings, and the first part that is none decides the error.
-/

namespace CertLifecycle

open Text (Blank blank_nil exists_blank_around exists_trim_append_of_solid trim trim_append_blank
  trim_blank_append trim_eq_nil_iff trim_of_no_blank)

namespace Requirement

/-- The operators that compare a label with a value. -/
inductive Comparison where
  | unequal
  | equal
  | doubleEqual

namespace Comparison

def mark : Comparison → List Char
  | .unequal => ['!', '=']
  | .equal => ['=']
  | .doubleEqual => ['=', '=']

/-- What is required; both ways to write equality mean the same. -/
def requirement : Comparison → String → String → Requirement
  | .unequal => .notEquals
  | .equal => .equals
  | .doubleEqual => .equals

theorem requirement_inj {first second : Comparison} {key key' value value' : String}
    (same : first.requirement key value = second.requirement key' value')
    (counts : first.mark.count '=' = second.mark.count '=') :
    first = second ∧ key = key' ∧ value = value' := by
  cases first <;> cases second <;> simp [requirement, mark] at same counts ⊢ <;> exact same

end Comparison

/-- A requirement with the operator as it is written. -/
inductive Spelling where
  | present (key : String)
  | absent (key : String)
  | compared (comparison : Comparison) (key value : String)

def Spelling.requirement : Spelling → Requirement
  | .present key => .isPresent key
  | .absent key => .isAbsent key
  | .compared comparison key value => comparison.requirement key value

/-- One or more characters of keys. -/
def IsKey (s : String) : Prop :=
  s ≠ "" ∧ ∀ c ∈ s.toList, isKeyChar c = true

/-- Characters of values, possibly none. -/
def IsValue (s : String) : Prop :=
  ∀ c ∈ s.toList, isValueChar c = true

/-- The forms of a requirement. White space may stand beside an operator and not within. -/
inductive Spells : List Char → Spelling → Prop where
  | present {key : String} (isKey : IsKey key) : Spells key.toList (.present key)
  | absent {gap : List Char} {key : String} (blank : Blank gap) (isKey : IsKey key) :
    Spells ('!' :: (gap ++ key.toList)) (.absent key)
  | compared {comparison : Comparison} {key value : String} {gap gap' : List Char}
    (isKey : IsKey key) (blank : Blank gap) (blank' : Blank gap') (isValue : IsValue value) :
    Spells (key.toList ++ gap ++ comparison.mark ++ (gap' ++ value.toList))
      (.compared comparison key value)

/-- A part of a selector is a spelling with white space around it. -/
def Reads (part : List Char) (spelling : Spelling) : Prop :=
  ∃ front core back, Blank front ∧ Blank back ∧ part = front ++ core ++ back ∧ Spells core spelling

theorem IsKey.no_mark {key : String} (isKey : IsKey key) {c : Char} (mark : isKeyChar c = false) :
    c ∉ key.toList :=
  not_mem_of_key_chars isKey.2 mark

theorem IsValue.key_chars {value : String} (isValue : IsValue value) :
    ∀ c ∈ value.toList, isKeyChar c = true := by
  intro c member
  exact isKeyChar_of_isValueChar (isValue c member)

theorem wellFormed_requirement {part : List Char} {spelling : Spelling}
    (spells : Spells part spelling) : spelling.requirement.WellFormed := by
  cases spells with
  | present isKey => exact ⟨isKey.1, isKey.2, by simp [Spelling.requirement, value?]⟩
  | absent _ isKey => exact ⟨isKey.1, isKey.2, by simp [Spelling.requirement, value?]⟩
  | @compared comparison key value _ _ isKey _ _ isValue =>
    have checked : ∀ value', some value = some value' → IsValue value' := by
      rintro _ ⟨⟩
      exact isValue
    cases comparison <;> exact ⟨isKey.1, isKey.2, checked⟩

/-- A comparison is cut at its operator if no mark stands elsewhere. -/
theorem reading_comparison {before after : List Char} (comparison : Comparison)
    (noEqual : '=' ∉ before ++ after) (noBang : '!' ∉ before ++ after) :
    reading (before ++ comparison.mark ++ after) =
      comparison.requirement (trimmed before) (trimmed after) := by
  rw [List.mem_append, not_or] at noEqual
  cases comparison with
  | unequal => exact reading_of_unequal noEqual.1
  | equal => exact reading_of_single noEqual.1 noEqual.2 noBang
  | doubleEqual => exact reading_of_double noEqual.1 noBang

theorem reading_cases (part : List Char) :
    (∃ comparison before after, part = before ++ Comparison.mark comparison ++ after ∧
      reading part = comparison.requirement (trimmed before) (trimmed after)) ∨
    (∃ rest, part = '!' :: rest ∧ reading part = .isAbsent (trimmed rest)) ∨
    reading part = .isPresent (trimmed part) := by
  -- The reader tries the operators in this order, and each later case knows that the earlier ones failed.
  cases unequal : Text.cutAt? ['!', '='] part with
  | some cut =>
    left
    exact ⟨.unequal, cut.1, cut.2, Text.eq_append_of_cutAt? unequal, by simp [reading, unequal,
      Comparison.requirement]⟩
  | none =>
    cases double : Text.cutAt? ['=', '='] part with
    | some cut =>
      left
      exact ⟨.doubleEqual, cut.1, cut.2, Text.eq_append_of_cutAt? double, by simp [reading, unequal,
        double, Comparison.requirement]⟩
    | none =>
      cases single : Text.cutAt? ['='] part with
      | some cut =>
        left
        exact ⟨.equal, cut.1, cut.2, Text.eq_append_of_cutAt? single, by simp [reading, unequal,
          double, single, Comparison.requirement]⟩
      | none =>
        have noEqual : '=' ∉ part := by
          intro member
          refine Text.cutAt?_eq_none_iff.mp single ?_
          simpa [List.singleton_infix_iff] using member
        rw [reading_of_no_equals noEqual]
        right
        by_cases head : part.head? = some '!'
        · left
          exact ⟨part.tail, (List.cons_head?_tail head).symm, if_pos head⟩
        · right
          exact if_neg head

theorem toList_trimmed (cs : List Char) : (trimmed cs).toList = trim cs :=
  String.toList_ofList

theorem Reads.around {part front back : List Char} {spelling : Spelling} (reads : Reads part spelling)
    (blank : Blank front) (blank' : Blank back) : Reads (front ++ part ++ back) spelling := by
  obtain ⟨first, core, last, outer, outer', rfl, spells⟩ := reads
  refine ⟨front ++ first, core, last ++ back, blank.append outer, outer'.append blank', ?_, spells⟩
  simp only [List.append_assoc]

/-- A part that is accepted is a spelling of what was read. -/
theorem reads_of_wellFormed {part : List Char} (wellFormed : (reading part).WellFormed) :
    ∃ spelling, Reads part spelling ∧ spelling.requirement = reading part := by
  rcases reading_cases part with ⟨comparison, before, after, rfl, same⟩ | ⟨rest, rfl, same⟩ | same
  · obtain ⟨first, gap, outer, inner, left⟩ := exists_blank_around before
    obtain ⟨gap', last, inner', outer', right⟩ := exists_blank_around after
    rw [same] at wellFormed ⊢
    have isKey : IsKey (trimmed before) := by
      cases comparison <;> exact ⟨wellFormed.named, wellFormed.key_chars⟩
    have isValue : IsValue (trimmed after) := by
      cases comparison <;> exact wellFormed.value_chars _ rfl
    refine ⟨.compared comparison (trimmed before) (trimmed after), ?_, rfl⟩
    refine ⟨first, _, last, outer, outer', ?_, .compared isKey inner inner' isValue⟩
    rw [toList_trimmed, toList_trimmed]
    conv_lhs => rw [left, right]
    simp only [List.append_assoc]
  · obtain ⟨gap, last, inner, outer, right⟩ := exists_blank_around rest
    rw [same] at wellFormed ⊢
    have isKey : IsKey (trimmed rest) := ⟨wellFormed.named, wellFormed.key_chars⟩
    refine ⟨.absent (trimmed rest), ⟨[], _, last, by simp [Blank], outer, ?_, .absent inner isKey⟩, rfl⟩
    rw [toList_trimmed]
    conv_lhs => rw [right]
    simp only [List.nil_append, List.cons_append]
  · obtain ⟨first, last, outer, outer', whole⟩ := exists_blank_around part
    rw [same] at wellFormed ⊢
    have isKey : IsKey (trimmed part) := ⟨wellFormed.named, wellFormed.key_chars⟩
    refine ⟨.present (trimmed part), ⟨first, _, last, outer, outer', ?_, .present isKey⟩, rfl⟩
    rw [toList_trimmed]
    exact whole

theorem trim_key_chars {s : String} (plain : ∀ c ∈ s.toList, isKeyChar c = true) :
    trim s.toList = s.toList := by
  refine trim_of_no_blank ?_
  intro c member
  exact not_isBlank_of_isKeyChar (plain c member)

/-- A key or value is found within the white space around it. -/
theorem trimmed_within {s : String} (plain : ∀ c ∈ s.toList, isKeyChar c = true)
    {front back : List Char} (blank : Blank front) (blank' : Blank back) :
    trimmed (front ++ s.toList ++ back) = s := by
  rw [trimmed, trim_append_blank blank', trim_blank_append blank, trim_key_chars plain,
    String.ofList_toList]

theorem not_mem_within {s : String} (plain : ∀ c ∈ s.toList, isKeyChar c = true)
    {front back : List Char} (blank : Blank front) (blank' : Blank back) {c : Char}
    (mark : isKeyChar c = false) (solid : Text.isBlank c = false) :
    c ∉ front ++ s.toList ++ back := by
  simp only [List.mem_append, not_or]
  exact ⟨⟨blank.not_mem solid, not_mem_of_key_chars plain mark⟩, blank'.not_mem solid⟩

/-- Every spelling is read as it is meant. -/
theorem reading_of_spells {core : List Char} {spelling : Spelling} (spells : Spells core spelling) :
    reading (trim core) = spelling.requirement := by
  cases spells with
  | present isKey => rw [trim_key_chars isKey.2, reading_isPresent isKey.2, Spelling.requirement]
  | @absent gap key blank isKey =>
    obtain ⟨kept, back, blank', whole, shape⟩ := exists_trim_append_of_solid
      (show ['!'].head? = some '!' from rfl) (show ['!'].getLast? = some '!' from rfl) (by decide)
      (by decide) (gap ++ key.toList)
    have known := trimmed_within isKey.2 blank blank_nil
    have clean := not_mem_within (c := '=') isKey.2 blank blank_nil (by decide) (by decide)
    rw [List.append_nil, whole] at known clean
    have noEqual : '=' ∉ '!' :: kept := by
      rw [List.mem_cons, not_or]
      exact ⟨by decide, fun member => clean (List.mem_append_left back member)⟩
    rw [trimmed, trim_append_blank blank', ← trimmed] at known
    rw [List.singleton_append, List.singleton_append] at shape
    rw [shape, reading_of_no_equals noEqual, if_pos List.head?_cons, List.tail_cons, known,
      Spelling.requirement]
  | @compared comparison key value gap gap' isKey blank blank' isValue =>
    obtain ⟨first, rest, start⟩ : ∃ first rest, key.toList = first :: rest := by
      refine List.exists_cons_of_ne_nil ?_
      simpa using isKey.1
    -- The part is trimmed before it is cut. Key and operator stay as they are, since both ends of them are
    -- solid, but the text behind the operator is known up to white space at its end only.
    have begins : (key.toList ++ gap ++ comparison.mark).head? = some first := by
      rw [start, List.cons_append, List.cons_append, List.head?_cons]
    have ends : (key.toList ++ gap ++ comparison.mark).getLast? = some '=' := by
      cases comparison <;> simp [Comparison.mark]
    have solid : Text.isBlank first = false :=
      not_isBlank_of_isKeyChar (isKey.2 first (by rw [start]; exact List.mem_cons_self))
    obtain ⟨kept, back, blank'', whole, shape⟩ :=
      exists_trim_append_of_solid begins ends solid (by decide) (gap' ++ value.toList)
    have clean {c : Char} (mark : isKeyChar c = false) (seen : Text.isBlank c = false) :
        c ∉ key.toList ++ gap ++ kept := by
      have left := not_mem_within isKey.2 blank_nil blank mark seen
      have right := not_mem_within isValue.key_chars blank' blank_nil mark seen
      rw [List.append_nil, whole] at right
      rw [List.nil_append] at left
      rw [List.mem_append, not_or]
      exact ⟨left, fun member => right (List.mem_append_left back member)⟩
    have known := trimmed_within isKey.2 blank_nil blank
    have known' := trimmed_within isValue.key_chars blank' blank_nil
    rw [List.append_nil, whole, trimmed, trim_append_blank blank'', ← trimmed] at known'
    rw [List.nil_append] at known
    rw [shape, reading_comparison comparison (clean (by decide) (by decide))
      (clean (by decide) (by decide)), known, known', Spelling.requirement]

/-- A part is accepted exactly if it is a spelling, and as what it spells. -/
theorem parse_trim_eq_ok_iff {part : List Char} {requirement : Requirement} :
    parse (trim part) = .ok requirement ↔
      ∃ spelling, Reads part spelling ∧ spelling.requirement = requirement := by
  rw [parse, check_eq_ok_iff]
  constructor
  · rintro ⟨rfl, wellFormed⟩
    obtain ⟨spelling, reads, same⟩ := reads_of_wellFormed wellFormed
    obtain ⟨front, back, blank, blank', whole⟩ := exists_blank_around part
    refine ⟨spelling, ?_, same⟩
    rw [whole]
    exact reads.around blank blank'
  · rintro ⟨spelling, ⟨front, core, back, blank, blank', rfl, spells⟩, rfl⟩
    have same : reading (trim (front ++ core ++ back)) = spelling.requirement := by
      rw [trim_append_blank blank', trim_blank_append blank, reading_of_spells spells]
    exact ⟨same, same ▸ wellFormed_requirement spells⟩

theorem accepts_iff {part : List Char} :
    (∃ requirement, parse (trim part) = .ok requirement) ↔ ∃ spelling, Reads part spelling := by
  constructor
  · rintro ⟨requirement, parsed⟩
    obtain ⟨spelling, reads, _⟩ := parse_trim_eq_ok_iff.mp parsed
    exact ⟨spelling, reads⟩
  · rintro ⟨spelling, reads⟩
    exact ⟨spelling.requirement, parse_trim_eq_ok_iff.mpr ⟨spelling, reads, rfl⟩⟩

theorem count_equals {part : List Char} {comparison : Comparison} {key value : String}
    (reads : Reads part (.compared comparison key value)) :
    part.count '=' = comparison.mark.count '=' := by
  obtain ⟨front, core, back, blank, blank', rfl, spells⟩ := reads
  cases spells with
  | compared isKey gap gap' isValue =>
    -- The sign stands neither in white space nor in keys and values, so only the operator has any.
    have none {cs : List Char} (absent : '=' ∉ cs) : cs.count '=' = 0 := List.count_eq_zero.mpr absent
    have noEqual : isKeyChar '=' = false := by decide
    have solid : Text.isBlank '=' = false := by decide
    simp only [List.count_append, none (blank.not_mem solid), none (blank'.not_mem solid),
      none (gap.not_mem solid), none (gap'.not_mem solid), none (isKey.no_mark noEqual),
      none (not_mem_of_key_chars isValue.key_chars noEqual)]
    omega

/-- A part has one reading at most. -/
theorem Reads.unique {part : List Char} {first second : Spelling} (reads : Reads part first)
    (reads' : Reads part second) : first = second := by
  have same : first.requirement = second.requirement := by
    have parsed := parse_trim_eq_ok_iff.mpr ⟨first, reads, rfl⟩
    rw [parse_trim_eq_ok_iff.mpr ⟨second, reads', rfl⟩] at parsed
    exact (Except.ok.inj parsed).symm
  cases first with
  | present key =>
    cases second with
    | compared comparison => cases comparison <;> cases same
    | _ => cases same <;> rfl
  | absent key =>
    cases second with
    | compared comparison => cases comparison <;> cases same
    | _ => cases same <;> rfl
  | compared comparison key value =>
    cases second with
    | present _ => cases comparison <;> cases same
    | absent _ => cases comparison <;> cases same
    | compared comparison' key' value' =>
      -- One and two equals signs are read as the same requirement. They differ in their number.
      have counts := (count_equals reads).symm.trans (count_equals reads')
      obtain ⟨rfl, rfl, rfl⟩ := Comparison.requirement_inj same counts
      rfl

/-- What an error tells of a part: its text, or a key or value of it with a character that has no place
there. -/
def Blames (part : List Char) : SelectorError → Prop
  | .emptyKey shown => shown = trimmed part
  | .invalidKey key => key.toList <:+: part ∧ ∃ c ∈ key.toList, isKeyChar c = false
  | .invalidValue value => value.toList <:+: part ∧ ∃ c ∈ value.toList, isValueChar c = false

theorem infix_of_trimmed (cs : List Char) : (trimmed cs).toList <:+: cs := by
  obtain ⟨front, back, _, _, whole⟩ := exists_blank_around cs
  rw [toList_trimmed]
  exact ⟨front, back, whole.symm⟩

theorem infix_of_reading (part : List Char) :
    (reading part).key.toList <:+: part ∧
      ∀ value, (reading part).value? = some value → value.toList <:+: part := by
  rcases reading_cases part with ⟨comparison, before, after, rfl, same⟩ | ⟨rest, rfl, same⟩ | same
  · have key := (infix_of_trimmed before).trans (List.infix_append [] before (comparison.mark ++ after))
    have value := (infix_of_trimmed after).trans (List.infix_append (before ++ comparison.mark) after [])
    rw [List.nil_append, ← List.append_assoc] at key
    rw [List.append_nil] at value
    rw [same]
    cases comparison <;> exact ⟨key, by rintro _ ⟨⟩; exact value⟩
  · rw [same]
    refine ⟨(infix_of_trimmed rest).trans (List.infix_cons (List.infix_refl rest)), ?_⟩
    rintro _ ⟨⟩
  · rw [same]
    refine ⟨infix_of_trimmed part, ?_⟩
    rintro _ ⟨⟩

theorem blames_of_parse {part : List Char} {error : SelectorError}
    (failed : parse (trim part) = .error error) : Blames part error := by
  have inside : trim part <:+: part := by
    rw [← toList_trimmed]
    exact infix_of_trimmed part
  obtain ⟨key, value⟩ := infix_of_reading (trim part)
  -- One case for each check, in the order in which they are made.
  unfold parse check at failed
  split at failed
  next =>
    cases failed
    rfl
  next =>
    split at failed
    next bad =>
      cases failed
      exact ⟨key.trans inside, by simpa using bad⟩
    next =>
      cases set : (reading (trim part)).value? with
      | none =>
        rw [set] at failed
        cases failed
      | some found =>
        rw [set] at failed
        dsimp only at failed
        split at failed
        next => cases failed
        next bad =>
          cases failed
          exact ⟨(value found set).trans inside, by simpa using bad⟩

end Requirement

namespace LabelSelector

open Collection (exists_of_mem_left mapM_eq_error_iff)
open Requirement (Blames Reads Spelling parse_trim_eq_ok_iff)

/-- The parts between the commas that are not blank, with the white space around them. -/
def filledParts (s : String) : List (List Char) :=
  (Text.pieces ',' s.toList).filter fun part => !part.all Text.isBlank

theorem parts_eq (s : String) : parts s.toList = (filledParts s).map trim := by
  rw [parts, filledParts, List.filter_map]
  congr 1
  refine List.filter_congr ?_
  intro part _
  have blank : (trim part).isEmpty = part.all Text.isBlank := by
    rw [Bool.eq_iff_iff, List.isEmpty_iff, trim_eq_nil_iff, List.all_eq_true, Blank]
  rw [Function.comp_apply, blank]

theorem parse_eq (s : String) :
    parse s = ((filledParts s).mapM fun part => Requirement.parse (trim part)).map .mk := by
  rw [parse_eq_mapM, parts_eq, List.mapM_map]
  rfl

theorem parse_eq_ok_iff {s : String} {selector : LabelSelector} :
    parse s = .ok selector ↔
      List.Forall₂ (fun part requirement => ∃ spelling, Reads part spelling ∧
        spelling.requirement = requirement) (filledParts s) selector.requirements := by
  rw [parse_eq_ok_iff_parts, parts_eq, List.forall₂_map_left_iff]
  simp only [parse_trim_eq_ok_iff]

theorem parse_eq_error_iff {s : String} {error : SelectorError} :
    parse s = .error error ↔ ∃ before part after, filledParts s = before ++ part :: after ∧
      (∀ earlier ∈ before, ∃ spelling, Reads earlier spelling) ∧
      Requirement.parse (trim part) = .error error := by
  have outer : parse s = .error error ↔
      (filledParts s).mapM (fun part => Requirement.parse (trim part)) = .error error := by
    rw [parse_eq]
    cases (filledParts s).mapM fun part => Requirement.parse (trim part) <;> simp [Except.map]
  rw [outer, mapM_eq_error_iff]
  simp only [Requirement.accepts_iff]

theorem filledParts_ofList {s : String} {part : List Char} (member : part ∈ filledParts s) :
    filledParts (String.ofList part) = [part] := by
  obtain ⟨piece, filled⟩ := List.mem_filter.mp member
  rw [filledParts, String.toList_ofList, Text.pieces_of_not_mem (Text.not_mem_of_mem_pieces piece),
    List.filter_singleton, filled, cond_true]

theorem parse_ofList_eq_error_iff {s : String} {part : List Char} (member : part ∈ filledParts s)
    {error : SelectorError} :
    parse (String.ofList part) = .error error ↔ Requirement.parse (trim part) = .error error := by
  rw [parse_eq_error_iff, filledParts_ofList member]
  constructor
  · rintro ⟨before, found, after, whole, _, failed⟩
    cases before with
    | nil =>
      obtain ⟨rfl, -⟩ := List.cons.inj whole
      exact failed
    | cons earlier before => simp at whole
  · intro failed
    exact ⟨[], part, [], rfl, by simp, failed⟩

/-- A selector is accepted exactly if each of its parts, blank ones apart, is a spelling of a
requirement, which it is in one way only, and it is read as these requirements in their order. Otherwise
the first part that is no spelling decides: the error is the one of this part alone, and it shows what is
wrong there. -/
theorem parse_follows_grammar (s : String) :
    ((∃ selector, parse s = .ok selector) ↔
      ∀ part ∈ filledParts s, ∃ spelling, Reads part spelling) ∧
    (∀ part first second, Reads part first → Reads part second → first = second) ∧
    (∀ selector, parse s = .ok selector ↔
      List.Forall₂ (fun part requirement => ∃ spelling, Reads part spelling ∧
        spelling.requirement = requirement) (filledParts s) selector.requirements) ∧
    (∀ error, parse s = .error error ↔
      ∃ before part after, filledParts s = before ++ part :: after ∧
        (∀ earlier ∈ before, ∃ spelling, Reads earlier spelling) ∧
        (¬∃ spelling, Reads part spelling) ∧
        parse (String.ofList part) = .error error ∧ Blames part error) := by
  have failure (error : SelectorError) : parse s = .error error ↔
      ∃ before part after, filledParts s = before ++ part :: after ∧
        (∀ earlier ∈ before, ∃ spelling, Reads earlier spelling) ∧
        (¬∃ spelling, Reads part spelling) ∧
        parse (String.ofList part) = .error error ∧ Blames part error := by
    rw [parse_eq_error_iff]
    constructor
    · rintro ⟨before, part, after, whole, good, failed⟩
      have member : part ∈ filledParts s := by simp [whole]
      refine ⟨before, part, after, whole, good, ?_, (parse_ofList_eq_error_iff member).mpr failed,
        Requirement.blames_of_parse failed⟩
      rw [← Requirement.accepts_iff, failed]
      rintro ⟨_, ⟨⟩⟩
    · rintro ⟨before, part, after, whole, good, _, alone, _⟩
      have member : part ∈ filledParts s := by simp [whole]
      exact ⟨before, part, after, whole, good, (parse_ofList_eq_error_iff member).mp alone⟩
  refine ⟨?_, fun part first second => Reads.unique, fun selector => parse_eq_ok_iff, failure⟩
  constructor
  · rintro ⟨selector, parsed⟩ part member
    obtain ⟨_, _, spelling, reads, _⟩ := exists_of_mem_left (parse_eq_ok_iff.mp parsed) member
    exact ⟨spelling, reads⟩
  · intro all
    cases parsed : parse s with
    | ok selector => exact ⟨selector, rfl⟩
    | error error =>
      obtain ⟨before, part, after, whole, _, bad, _⟩ := (failure error).mp parsed
      exact absurd (all part (by simp [whole])) bad

-- The cut is made at the first operator of the kind that is tried first, not at the first operator.
example : parse "a, b=c!=d" = .error (.invalidKey "b=c") := by decide

end LabelSelector

end CertLifecycle
