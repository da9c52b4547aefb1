import CertLifecycle.Proofs.Collection.SameElements
import CertLifecycle.Proofs.Selector.RoundTrip
import CertLifecycle.Proofs.Store.History
import CertLifecycle.Resource.Secret

/-!
Selectors written one after the other. A comma between two texts cuts them apart again, so each is read by
itself, and the requirements of both must be met. Main result: `comma_composes`, a listing with both
selectors is what the two listings have in common, and a part that is blank or a repetition changes none.
-/

namespace CertLifecycle

open Collection (SameSet exists_of_mem_left exists_of_mem_right mapM_eq_error_iff)
open Text (Blank pieces trim trim_eq_nil_iff)

namespace LabelSelector

section Meaning

variable (first second : LabelSelector) (labels : Dictionary String)

theorem selects_append :
    (⟨first.requirements ++ second.requirements⟩ : LabelSelector).selects labels =
      (first.selects labels && second.selects labels) :=
  List.all_append

theorem selects_withEquals (key value : String) :
    (first.withEquals key value).selects labels =
      (first.selects labels && decide (labels.get? key = some value)) := by
  rw [withEquals, selects_append first ⟨[.equals key value]⟩]
  simp [selects, Requirement.isMetBy, beq_eq_decide]

/-- Order and repetition of requirements do not count. -/
theorem selects_eq_of_sameSet (same : SameSet first.requirements second.requirements) :
    first.selects labels = second.selects labels := by
  rw [Bool.eq_iff_iff, selects, selects, List.all_eq_true, List.all_eq_true]
  exact forall_congr' fun requirement => imp_congr_left (same requirement)

end Meaning

theorem parts_comma (a b : String) :
    parts (a ++ "," ++ b).toList = parts a.toList ++ parts b.toList := by
  have whole : (a ++ "," ++ b).toList = a.toList ++ ',' :: b.toList := by simp
  rw [whole, parts, Text.pieces_append, List.map_append, List.filter_append, parts, parts]

/-- Two texts with a comma between them are read one after the other. -/
theorem parse_comma (a b : String) :
    parse (a ++ "," ++ b) = do
      let first ← parse a
      let second ← parse b
      return ⟨first.requirements ++ second.requirements⟩ := by
  rw [parse_eq_mapM, parse_eq_mapM, parse_eq_mapM, parts_comma, List.mapM_append]
  cases (parts a.toList).mapM Requirement.parse with
  | error error => rfl
  | ok first => cases (parts b.toList).mapM Requirement.parse <;> rfl

section Comma

variable {a b : String} {first second : LabelSelector} {error : SelectorError}

theorem parse_comma_ok (reads : parse a = .ok first) (reads' : parse b = .ok second) :
    parse (a ++ "," ++ b) = .ok ⟨first.requirements ++ second.requirements⟩ := by
  rw [parse_comma, reads, reads']
  rfl

theorem parse_comma_left (fails : parse a = .error error) : parse (a ++ "," ++ b) = .error error := by
  rw [parse_comma, fails]
  rfl

theorem parse_comma_right (reads : parse a = .ok first) (fails : parse b = .error error) :
    parse (a ++ "," ++ b) = .error error := by
  rw [parse_comma, reads, fails]
  rfl

end Comma

section Parts

variable {s t : String} {selector : LabelSelector}

theorem exists_parse_iff :
    (∃ selector, parse s = .ok selector) ↔
      ∀ part ∈ parts s.toList, ∃ requirement, Requirement.parse part = .ok requirement := by
  constructor
  · rintro ⟨selector, reads⟩ part member
    obtain ⟨requirement, _, found⟩ := exists_of_mem_left (parse_eq_ok_iff_parts.mp reads) member
    exact ⟨requirement, found⟩
  · intro all
    rw [parse_eq_mapM]
    cases traversed : (parts s.toList).mapM Requirement.parse with
    | ok requirements => exact ⟨⟨requirements⟩, rfl⟩
    | error error =>
      obtain ⟨before, part, after, whole, _, fails⟩ := mapM_eq_error_iff.mp traversed
      obtain ⟨requirement, found⟩ := all part (by simp [whole])
      rw [fails] at found
      cases found

theorem mem_requirements_iff (reads : parse s = .ok selector) {requirement : Requirement} :
    requirement ∈ selector.requirements ↔
      ∃ part ∈ parts s.toList, Requirement.parse part = .ok requirement := by
  have pointwise := parse_eq_ok_iff_parts.mp reads
  constructor
  · exact exists_of_mem_right pointwise
  · rintro ⟨part, member, found⟩
    obtain ⟨requirement', known, found'⟩ := exists_of_mem_left pointwise member
    rw [found, Except.ok.injEq] at found'
    exact found' ▸ known

/-- Texts with the same parts are both read or both refused, and what is read has the same requirements. -/
theorem exists_parse_congr (same : SameSet (parts s.toList) (parts t.toList)) :
    (∃ selector, parse s = .ok selector) ↔ ∃ selector, parse t = .ok selector := by
  rw [exists_parse_iff, exists_parse_iff]
  exact forall_congr' fun part => imp_congr_left (same part)

theorem sameSet_requirements (same : SameSet (parts s.toList) (parts t.toList))
    {selector' : LabelSelector} (reads : parse s = .ok selector) (reads' : parse t = .ok selector') :
    SameSet selector.requirements selector'.requirements := by
  intro requirement
  rw [mem_requirements_iff reads, mem_requirements_iff reads']
  exact exists_congr fun part => and_congr_left fun _ => same part

end Parts

/-- A text with one part more than another, put in anywhere: a blank part, or one that the other has as well,
whatever white space is around it. -/
def Repeats (s longer : String) : Prop :=
  ∃ front part back, pieces ',' s.toList = front ++ back ∧ pieces ',' longer.toList = front ++ part :: back ∧
    (Blank part ∨ ∃ other ∈ front ++ back, trim part = trim other)

theorem mem_parts_iff {cs part : List Char} :
    part ∈ parts cs ↔ part ≠ [] ∧ ∃ piece ∈ pieces ',' cs, trim piece = part := by
  simp [parts, and_comm]

theorem Repeats.sameSet_parts {s longer : String} (repeats : Repeats s longer) :
    SameSet (parts longer.toList) (parts s.toList) := by
  obtain ⟨front, part, back, pieces_s, pieces_longer, blank_or_known⟩ := repeats
  intro found
  rw [mem_parts_iff, mem_parts_iff, pieces_s, pieces_longer]
  refine and_congr_right fun filled => ⟨?_, ?_⟩
  · rintro ⟨piece, member, rfl⟩
    rcases List.mem_cons.mp (List.perm_middle.mem_iff.mp member) with rfl | old
    -- The new part is dropped when it is blank, and is in the other text otherwise.
    · rcases blank_or_known with blank | ⟨other, known, equal⟩
      · exact absurd (trim_eq_nil_iff.mpr blank) filled
      · exact ⟨other, known, equal.symm⟩
    · exact ⟨piece, old, rfl⟩
  · rintro ⟨piece, member, rfl⟩
    exact ⟨piece, List.perm_middle.mem_iff.mpr (List.mem_cons_of_mem part member), rfl⟩

end LabelSelector

namespace Store

variable {ρ : Type} [Resource ρ]

open Resource (metaOf)

theorem list_congr {first second : LabelSelector}
    (alike : ∀ labels, first.selects labels = second.selects labels) (store : Store ρ) (scope : String) :
    store.list scope first = store.list scope second := by
  rw [list, list]
  simp only [alike]

/-- A selector that asks for more selects from what was listed before. -/
theorem list_and {first second : LabelSelector} {asks : Dictionary String → Bool}
    (both : ∀ labels, second.selects labels = (first.selects labels && asks labels)) (store : Store ρ)
    (scope : String) :
    store.list scope second =
      (store.list scope first).map fun found => found.filter fun object => asks (metaOf object).labels := by
  cases state : store.outage with
  | some reason => rw [list_in_outage state, list_in_outage state, Except.map]
  | none =>
    rw [list_in_service state, list_in_service state, Except.map, List.filter_filter]
    simp only [both, List.filter_filter, Bool.and_comm, Bool.and_left_comm]

theorem mem_listed {store : Store ρ} {scope : String} {selector : LabelSelector} {found : List ρ}
    (listed : store.list scope selector = .ok found) {object : ρ} :
    object ∈ found ↔ object ∈ store.objects ∧ Resource.liesIn scope object = true ∧
      selector.selects (metaOf object).labels = true := by
  cases state : store.outage with
  | some reason =>
    rw [list_in_outage state] at listed
    cases listed
  | none =>
    rw [list_in_service state, Except.ok.injEq] at listed
    rw [← listed, List.mem_filter, List.mem_filter, and_assoc]

/-- The listing with the requirements of two selectors has what is in both listings, in the order of the
store. -/
theorem list_append [DecidableEq ρ] {store : Store ρ} {scope : String} {first second : LabelSelector}
    {found found' : List ρ} (listed : store.list scope first = .ok found)
    (listed' : store.list scope second = .ok found') :
    store.list scope ⟨first.requirements ++ second.requirements⟩ =
      .ok (store.objects.filter fun object => object ∈ found ∧ object ∈ found') := by
  have service : store.outage = none := by
    cases state : store.outage with
    | none => rfl
    | some reason =>
      rw [list_in_outage state] at listed
      cases listed
  rw [list_in_service service, List.filter_filter]
  refine congrArg Except.ok (List.filter_congr fun object stored => ?_)
  rw [Bool.eq_iff_iff, decide_eq_true_eq, mem_listed listed, mem_listed listed',
    LabelSelector.selects_append, Bool.and_eq_true, Bool.and_eq_true]
  tauto

end Store

namespace LabelSelector

variable {ρ : Type} [Resource ρ] [DecidableEq ρ]

open Resource (metaOf)

/-- With a comma between them, two texts are read as the requirements of the first and then those of the
second, and the first text that cannot be read decides the error. Every listing with both is what the two
listings have in common, in the order of the store, whichever text comes first. A part put in that is blank
or stands there already changes no listing, and a further required label only takes away objects with
another value. -/
theorem comma_composes (a b : String) :
    (∀ first second, parse a = .ok first → parse b = .ok second →
      parse (a ++ "," ++ b) = .ok ⟨first.requirements ++ second.requirements⟩) ∧
    (∀ error, parse a = .error error → parse (a ++ "," ++ b) = .error error) ∧
    (∀ first error, parse a = .ok first → parse b = .error error →
      parse (a ++ "," ++ b) = .error error) ∧
    (∀ first second, parse a = .ok first → parse b = .ok second →
      ∃ both swapped, parse (a ++ "," ++ b) = .ok both ∧ parse (b ++ "," ++ a) = .ok swapped ∧
        ∀ (store : Store ρ) scope, store.outage = none →
          ∃ found found', store.list scope first = .ok found ∧ store.list scope second = .ok found' ∧
            store.list scope both =
              .ok (store.objects.filter fun object => object ∈ found ∧ object ∈ found') ∧
            store.list scope swapped = store.list scope both) ∧
    (∀ longer, Repeats a longer →
      ((∃ first, parse a = .ok first) ↔ ∃ again, parse longer = .ok again) ∧
      ∀ first again, parse a = .ok first → parse longer = .ok again →
        ∀ (store : Store ρ) scope, store.list scope again = store.list scope first) ∧
    ∀ (selector : LabelSelector) key value (store : Store ρ) scope,
      store.list scope (selector.withEquals key value) = (store.list scope selector).map
        fun found => found.filter fun object => (metaOf object).labels.get? key = some value := by
  refine ⟨fun first second reads reads' => parse_comma_ok reads reads', fun error fails =>
    parse_comma_left fails, fun first error reads fails => parse_comma_right reads fails,
    fun first second reads reads' => ?_, fun longer repeats => ⟨?_, ?_⟩, fun selector key value => ?_⟩
  · refine ⟨_, _, parse_comma_ok reads reads', parse_comma_ok reads' reads, fun store scope service => ?_⟩
    have listed := Store.list_in_service service scope first
    have listed' := Store.list_in_service service scope second
    refine ⟨_, _, listed, listed', Store.list_append listed listed', Store.list_congr ?_ store scope⟩
    intro labels
    rw [selects_append, selects_append, Bool.and_comm]
  · exact (exists_parse_congr repeats.sameSet_parts).symm
  · intro first again reads reads' store scope
    have same := sameSet_requirements repeats.sameSet_parts reads' reads
    exact store.list_congr (fun labels => selects_eq_of_sameSet again first labels same) scope
  · exact Store.list_and fun labels => selects_withEquals selector labels key value

def labelled (name : String) (labels : List (String × String)) : Secret :=
  { metadata := { scope := "default", name, labels := .ofList labels } }

/-- One secret is legacy, and one is of another application. -/
def labelledSecrets : Store Secret :=
  .ofList [labelled "web" [("app", "web")], labelled "old" [("app", "web"), ("legacy", "")],
    labelled "api" [("app", "api")]]

/-- Both conditions leave one secret. Repeating the first one changes nothing. -/
theorem labelledSecrets_listed :
    ∃ both again, parse ("app=web" ++ "," ++ "!legacy") = .ok both ∧
      parse "app=web,app=web " = .ok again ∧
      labelledSecrets.list "default" both = .ok [labelled "web" [("app", "web")]] ∧
      labelledSecrets.list "default" again =
        .ok [labelled "web" [("app", "web")], labelled "old" [("app", "web"), ("legacy", "")]] ∧
      labelledSecrets.list "default" (everything.withEquals "app" "api") =
        .ok [labelled "api" [("app", "api")]] := by
  have reads : parse "app=web" = .ok ⟨[.equals "app" "web"]⟩ := by decide
  have reads' : parse "!legacy" = .ok ⟨[.isAbsent "legacy"]⟩ := by decide
  have repeats : Repeats "app=web" "app=web,app=web " :=
    ⟨["app=web".toList], "app=web ".toList, [], by decide, by decide, .inr (by decide)⟩
  have web : labelledSecrets.list "default" ⟨[.equals "app" "web"]⟩ =
      .ok [labelled "web" [("app", "web")], labelled "old" [("app", "web"), ("legacy", "")]] := by
    decide
  have fresh : labelledSecrets.list "default" ⟨[.isAbsent "legacy"]⟩ =
      .ok [labelled "web" [("app", "web")], labelled "api" [("app", "api")]] := by
    decide
  obtain ⟨_, _, _, common, unchanged, labels⟩ := comma_composes (ρ := Secret) "app=web" "!legacy"
  obtain ⟨both, _, joined, _, listings⟩ := common _ _ reads reads'
  obtain ⟨found, found', listed, listed', together, _⟩ := listings labelledSecrets "default" rfl
  obtain ⟨again, rereads⟩ := (unchanged _ repeats).1.mp ⟨_, reads⟩
  rw [web, Except.ok.injEq] at listed
  rw [fresh, Except.ok.injEq] at listed'
  refine ⟨both, again, joined, rereads, ?_, ?_, ?_⟩
  · rw [together, ← listed, ← listed']
    decide
  · rw [(unchanged _ repeats).2 _ _ reads rereads, web]
  · rw [labels]
    decide

end LabelSelector

end CertLifecycle
