import CertLifecycle.Proofs.Reconcile.Queue
import CertLifecycle.Proofs.Store.History
import CertLifecycle.Proofs.Text.Split
import CertLifecycle.Resource.Certificate

/-!
How far keys tell objects apart. A slash in a name can be taken for the one that separates the namespace:
`Clash` says of two places when that happens. Main result: `ofObject_identifies_up_to_clash`, named
objects have one key exactly if they have one place or their places clash, and only then the queue holds
one entry for both.
-/

namespace CertLifecycle

open Resource (placeOf metaOf)

theorem concat_slash_eq_iff (s n t m : String) :
    s ++ "/" ++ n = t ++ "/" ++ m ↔
      s = t ∧ n = m ∨ (∃ k, t = s ++ "/" ++ k ∧ n = k ++ "/" ++ m) ∨
        ∃ k, s = t ++ "/" ++ k ∧ m = k ++ "/" ++ n := by
  have chars (a b : String) : (a ++ "/" ++ b).toList = a.toList ++ '/' :: b.toList := by simp
  constructor
  · intro equal
    have cut := congrArg String.toList equal
    rw [chars, chars, Text.append_mark_eq_iff] at cut
    rcases cut with ⟨left, right⟩ | ⟨k, left, right⟩ | ⟨k, left, right⟩
    · exact .inl ⟨String.toList_inj.mp left, String.toList_inj.mp right⟩
    · refine .inr (.inl ⟨String.ofList k, ?_, ?_⟩) <;> apply String.toList_inj.mp
      · rw [left, chars, String.toList_ofList]
      · rw [right, chars, String.toList_ofList]
    · refine .inr (.inr ⟨String.ofList k, ?_, ?_⟩) <;> apply String.toList_inj.mp
      · rw [left, chars, String.toList_ofList]
      · rw [right, chars, String.toList_ofList]
  · rintro (⟨rfl, rfl⟩ | ⟨k, rfl, rfl⟩ | ⟨k, rfl, rfl⟩)
    · rfl
    · simp only [String.append_assoc]
    · simp only [String.append_assoc]

namespace Certificate

/-- A certificate with nothing set but what has no default. -/
def bare (scope name secretName : String) : Certificate :=
  { metadata := .named scope name, spec := { secretName, issuer := { name := "ca" } } }

end Certificate

namespace Key

/-- The name of the first place goes on over the slash that separates the namespace of the second from
its name: both have one text, cut at different slashes. -/
def Overlaps (first second : String × String) : Prop :=
  first.1 = "" ∧ second.1 ≠ "" ∧ first.2 = second.1 ++ "/" ++ second.2 ∨
    first.1 ≠ "" ∧ ∃ middle, second.1 = first.1 ++ "/" ++ middle ∧
      first.2 = middle ++ "/" ++ second.2

/-- Two places whose keys are cut from one text at different slashes. -/
def Clash (first second : String × String) : Prop :=
  Overlaps first second ∨ Overlaps second first

def textOf (place : String × String) : String :=
  if place.1 = "" then place.2 else place.1 ++ "/" ++ place.2

theorem make_of_named (kind : String) {scope name : String} (named : name ≠ "") :
    make kind scope name = .ok ⟨textOf (scope, name)⟩ := by
  have filled : name.isEmpty = false := by simpa using named
  by_cases cluster : scope = ""
  · simp [make, textOf, filled, cluster]
  · have inside : scope.isEmpty = false := by simpa using cluster
    simp [make, textOf, filled, inside, cluster]

theorem ne_empty_of_slash (left right : String) : left ++ "/" ++ right ≠ "" := by
  intro empty
  have chars := congrArg String.toList empty
  simp at chars

/-- The texts of two keys are equal exactly for one place or for places that clash. -/
theorem textOf_eq_iff (first second : String × String) :
    textOf first = textOf second ↔ first = second ∨ Clash first second := by
  obtain ⟨s, n⟩ := first
  obtain ⟨t, m⟩ := second
  unfold textOf Clash Overlaps
  -- A key without a namespace is cut nowhere, so there are four cases.
  by_cases cluster : s = "" <;> by_cases cluster' : t = ""
  · simp [cluster, cluster']
  · simp [cluster, cluster']
  · simp only [cluster, cluster', if_true, if_false, ne_eq, not_true_eq_false, not_false_eq_true,
      false_and, true_and, Prod.mk.injEq, or_false, false_or]
    constructor
    · intro equal
      exact .inr equal.symm
    -- A namespace with a slash in it is not empty, so one of the two overlaps is left.
    · rintro (⟨middle, empty, _⟩ | equal)
      · exact absurd empty.symm (ne_empty_of_slash s middle)
      · exact equal.symm
  · simp only [cluster, cluster', if_false, concat_slash_eq_iff, Prod.mk.injEq, false_and, false_or,
      ne_eq, not_false_eq_true, true_and]

variable {ρ : Type} [Resource ρ]

/-- The key of a named object is cut from nothing but its place. -/
theorem ofObject_of_named {object : ρ} (named : (metaOf object).name ≠ "") :
    ofObject object = .ok ⟨textOf (placeOf object)⟩ :=
  make_of_named _ named

/-- Named objects have one key exactly if they have one place or their places clash. Whatever the queue
went through before, two keys added to it are two entries, and one key is one. -/
theorem ofObject_identifies_up_to_clash (first second : ρ) (named : (metaOf first).name ≠ "")
    (named' : (metaOf second).name ≠ "") :
    ∃ key key', ofObject first = .ok key ∧ ofObject second = .ok key' ∧
      (key = key' ↔ placeOf first = placeOf second ∨ Clash (placeOf first) (placeOf second)) ∧
      ∀ history, ((((Queue.replay history).add key).add key').toList.filter
        fun entry => entry = key ∨ entry = key').length = if key = key' then 1 else 2 := by
  refine ⟨_, _, ofObject_of_named named, ofObject_of_named named', ?_, fun history => ?_⟩
  · rw [Key.mk.injEq, textOf_eq_iff]
  · exact Queue.length_entries_add_add (Queue.consistent_replay history) _ _

/-- With a slash in the namespace or in the name, two certificates of different places wait as one. -/
theorem slash_in_scope_or_name_clashes :
    placeOf (Certificate.bare "team/a" "web" "tls") ≠ placeOf (Certificate.bare "team" "a/web" "tls") ∧
      ∃ key, ofObject (Certificate.bare "team/a" "web" "tls") = .ok key ∧
        ofObject (Certificate.bare "team" "a/web" "tls") = .ok key ∧
        ∀ history, ((((Queue.replay history).add key).add key).toList.filter
          fun entry => entry = key ∨ entry = key).length = 1 := by
  obtain ⟨key, key', found, found', same, entries⟩ := ofObject_identifies_up_to_clash
    (Certificate.bare "team/a" "web" "tls") (Certificate.bare "team" "a/web" "tls") (by decide)
    (by decide)
  have clash : Clash ("team/a", "web") ("team", "a/web") :=
    .inr (.inr ⟨by decide, "a", by decide, by decide⟩)
  have one : key = key' := same.mpr (.inr clash)
  subst one
  refine ⟨by decide, key, found, found', fun history => ?_⟩
  rw [entries history, if_pos rfl]

/-- Two stored certificates, one of the whole cluster and one of a namespace, that have one key and take
one entry. -/
theorem distinct_certificates_share_an_entry :
    (Store.ofList [Certificate.bare "" "a/b" "tls", Certificate.bare "a" "b" "tls"]).objects =
        [Certificate.bare "" "a/b" "tls", Certificate.bare "a" "b" "tls"] ∧
      placeOf (Certificate.bare "" "a/b" "tls") ≠ placeOf (Certificate.bare "a" "b" "tls") ∧
      ofObject (Certificate.bare "" "a/b" "tls") = .ok ⟨"a/b"⟩ ∧
      ofObject (Certificate.bare "a" "b" "tls") = .ok ⟨"a/b"⟩ ∧
      ((Queue.empty.add ⟨"a/b"⟩).add ⟨"a/b"⟩).toList = [⟨"a/b"⟩] := by
  refine ⟨by decide, by decide, by decide, by decide, ?_⟩
  have once := Queue.toList_add Queue.consistent_empty ⟨"a/b"⟩
  rw [Queue.toList_add (Queue.consistent_add Queue.consistent_empty _), once]
  simp

/-- Without slashes in names, a key belongs to one place. -/
theorem ofObject_inj_of_no_slash (first second : ρ) (named : (metaOf first).name ≠ "")
    (named' : (metaOf second).name ≠ "") (plain : '/' ∉ (metaOf first).name.toList)
    (plain' : '/' ∉ (metaOf second).name.toList) :
    ofObject first = ofObject second ↔ placeOf first = placeOf second := by
  rw [ofObject_of_named named, ofObject_of_named named', Except.ok.injEq, Key.mk.injEq, textOf_eq_iff]
  -- A name takes up the slash of the other key in each overlap.
  have apart {a b : ρ} (plain : '/' ∉ (metaOf a).name.toList) :
      ¬Overlaps (placeOf a) (placeOf b) := by
    rintro (⟨_, _, whole⟩ | ⟨_, middle, _, whole⟩)
    · exact plain (by simp [show (metaOf a).name = _ from whole])
    · exact plain (by simp [show (metaOf a).name = _ from whole])
  exact or_iff_left fun clash => clash.elim (apart plain) (apart plain')

end Key

end CertLifecycle
