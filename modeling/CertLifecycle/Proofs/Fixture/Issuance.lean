import CertLifecycle.Fixture.Basic
import CertLifecycle.Predicate.Tests
import CertLifecycle.Proofs.Store.Filtering
import CertLifecycle.Proofs.Store.OrderedMap
import CertLifecycle.Proofs.Text.Digits
import CertLifecycle.Proofs.Text.Split

/-!
Requests for many certificates and revisions in one store. Their names, annotations and owners say which
certificate and revision they were made for, and go on to say so when more is added to them. Main result:
`requests_told_apart`, the store holds one request for each certificate and revision, and a listing by
revision and owner finds it and no other.
-/

namespace CertLifecycle

open Resource (placeOf)
open Collection (latest_map latest_iff_getLast?)

/-- Something more that is said of a request. The revision is not said again. -/
inductive Addition where
  | labelled (key value : String)
  | annotated (key value : String) (other : key ≠ CertificateRequest.revisionKey)
  /-- An owner after the others, whether it manages the request or not. -/
  | owned (reference : OwnerReference)

def ObjectMeta.add (m : ObjectMeta) : Addition → ObjectMeta
  | .labelled key value => m.withLabel key value
  | .annotated key value _ => m.annotate key value
  | .owned reference => m.withOwner reference

/-- A request that is made for a revision of a certificate. -/
structure Issuance where
  name : String
  secretName : String
  revision : UInt32
  names : ArtifactNames
  additions : List Addition := []

namespace Issuance

/-- The certificate, by its name, and the revision. -/
def subject (issuance : Issuance) : String × UInt32 :=
  (issuance.name, issuance.revision)

/-- The request as the fixture builds it, with the additions in order. -/
def request (issuance : Issuance) : CertificateRequest :=
  let made := (Fixture.make issuance.name issuance.secretName).requestWith issuance.revision issuance.names
  { made with metadata := issuance.additions.foldl ObjectMeta.add made.metadata }

/-- The last request made for a certificate and a revision. -/
def lastFor (issuances : List Issuance) (subject : String × UInt32) : Option Issuance :=
  (issuances.filter fun issuance => issuance.subject = subject).getLast?

/-- Where the request for a certificate and a revision is stored. -/
def placeFor (subject : String × UInt32) : String × String :=
  (Fixture.defaultScope, subject.1 ++ "-" ++ Text.decimal subject.2.toNat)

/-- No two certificates and revisions share a place, also if a name ends like another one with a
revision. -/
theorem placeFor_injective : Function.Injective placeFor := by
  rintro ⟨name, revision⟩ ⟨name', revision'⟩ same
  have cut := congrArg String.toList (Prod.mk.inj same).2
  -- Digits hold no hyphen, so the last one ends the name.
  have digits (n : Nat) : '-' ∉ Text.natChars 10 n := Text.not_mem_natChars (by decide) (by decide) rfl n
  have chars (front : String) (n : Nat) :
      (front ++ "-" ++ Text.decimal n).toList = front.toList ++ '-' :: Text.natChars 10 n := by
    simp [Text.decimal]
  rw [chars, chars, Text.append_mark_inj (digits _) (digits _)] at cut
  have number := Text.decimal_inj.mp (congrArg String.ofList cut.2)
  exact Prod.ext (String.toList_inj.mp cut.1) (UInt32.toNat_inj.mp number)

example : placeFor ("web-1", 2) ≠ placeFor ("web", 12) := by decide

/-- Metadata that say for which certificate and revision a request was made. -/
structure MadeFor (subject : String × UInt32) (m : ObjectMeta) : Prop where
  place : (m.scope, m.name) = placeFor subject
  annotated : m.annotations.get? CertificateRequest.revisionKey = some (Text.decimal subject.2.toNat)
  managed : ∃ owner, m.controller? = some owner ∧ owner.uid = "uid-" ++ subject.1

theorem madeFor_requestMeta (name secretName : String) (revision : UInt32) :
    MadeFor (name, revision) ((Fixture.make name secretName).requestMeta revision) := by
  refine ⟨rfl, ?_, _, rfl, rfl⟩
  change ((∅ : Dictionary String).insert _ _).get? _ = _
  rw [Dictionary.get?_insert, if_pos rfl]

namespace MadeFor

variable {subject : String × UInt32} {m : ObjectMeta}

theorem add (made : MadeFor subject m) (addition : Addition) : MadeFor subject (m.add addition) := by
  cases addition with
  | labelled key value => exact ⟨made.place, made.annotated, made.managed⟩
  | annotated key value other =>
    refine ⟨made.place, ?_, made.managed⟩
    change (m.annotations.insert key value).get? _ = _
    rw [Dictionary.get?_insert, if_neg other.symm, made.annotated]
  | owned reference =>
    obtain ⟨owner, first, uid⟩ := made.managed
    -- The search for a managing owner ends before it comes to the new one.
    refine ⟨made.place, made.annotated, owner, ?_, uid⟩
    change (m.owners ++ [reference]).find? OwnerReference.isController = some owner
    rw [List.find?_append, show m.owners.find? _ = _ from first, Option.some_or]

theorem addAll (made : MadeFor subject m) (additions : List Addition) :
    MadeFor subject (additions.foldl ObjectMeta.add m) := by
  induction additions generalizing m with
  | nil => exact made
  | cons addition rest ih => exact ih (made.add addition)

variable {request : CertificateRequest}

theorem hasRevision_iff (made : MadeFor subject request.metadata) (revision : UInt32) :
    CertificateRequest.hasRevision revision request = true ↔ subject.2 = revision := by
  rw [CertificateRequest.hasRevision, CertificateRequest.revision?, made.annotated, beq_iff_eq,
    Option.some.injEq, Text.decimal_inj, UInt32.toNat_inj]

theorem isManagedBy_iff (made : MadeFor subject request.metadata) (name : String) :
    CertificateRequest.isManagedBy ("uid-" ++ name) request = true ↔ subject.1 = name := by
  obtain ⟨owner, first, uid⟩ := made.managed
  rw [CertificateRequest.isManagedBy, ObjectMeta.isControlledBy, first, Option.any_some, uid, beq_iff_eq,
    String.append_right_inj]

/-- Both tests together ask for the certificate and the revision. -/
theorem all_iff (made : MadeFor subject request.metadata) (name : String) (revision : UInt32) :
    ([CertificateRequest.hasRevision revision, CertificateRequest.isManagedBy ("uid-" ++ name)].all
      fun test => test request) = true ↔ subject = (name, revision) := by
  rw [List.all_cons, List.all_cons, List.all_nil, Bool.and_true, Bool.and_eq_true,
    made.hasRevision_iff revision, made.isManagedBy_iff name, Prod.ext_iff, and_comm]

end MadeFor

theorem madeFor_request (issuance : Issuance) : MadeFor issuance.subject issuance.request.metadata :=
  (madeFor_requestMeta issuance.name issuance.secretName issuance.revision).addAll issuance.additions

theorem placeOf_request (issuance : Issuance) : placeOf issuance.request = placeFor issuance.subject :=
  issuance.madeFor_request.place

/-- The store after requests were inserted one after the other. -/
def stored (issuances : List Issuance) : Store CertificateRequest :=
  .ofList (issuances.map request)

theorem mem_stored_iff (issuances : List Issuance) (request : CertificateRequest) :
    request ∈ (stored issuances).objects ↔
      ∃ issuance, issuance.request = request ∧ lastFor issuances issuance.subject = some issuance := by
  rw [stored, Store.mem_ofList_iff, latest_map]
  refine exists_congr fun issuance => and_congr_right ?_
  rintro rfl
  -- What was written to one place was made for one certificate and revision, and the other way round.
  simp only [placeOf_request, placeFor_injective.eq_iff, latest_iff_getLast?]
  rfl

theorem size_stored (issuances : List Issuance) :
    (stored issuances).size = (issuances.map subject).dedup.length := by
  have places : (issuances.map request).map placeOf = (issuances.map subject).map placeFor := by
    rw [List.map_map, List.map_map]
    exact List.map_congr_left fun issuance _ => issuance.placeOf_request
  rw [stored, Store.size_ofList, places, List.dedup_map_of_injective placeFor_injective, List.length_map]

theorem subject_of_lastFor {issuances : List Issuance} {subject : String × UInt32} {issuance : Issuance}
    (last : lastFor issuances subject = some issuance) : issuance.subject = subject := by
  have member := List.mem_of_getLast? last
  simpa using (List.mem_filter.mp member).2

/-- Every request is listed, for all of them lie in the one namespace. -/
theorem list_stored (issuances : List Issuance) :
    (stored issuances).list Fixture.defaultScope .everything = .ok (stored issuances).objects := by
  have service : (stored issuances).outage = none := Store.outage_ofList _
  rw [Store.list_eq_filter service, List.filter_eq_self.mpr]
  intro request member
  obtain ⟨issuance, rfl, _⟩ := (mem_stored_iff issuances request).mp member
  have scope : issuance.request.metadata.scope = Fixture.defaultScope :=
    congrArg Prod.fst issuance.madeFor_request.place
  simp [Resource.metaOf, scope, LabelSelector.selects, LabelSelector.everything]

/-- However requests are inserted, the store holds one for each certificate and revision, which is the last
one made for them, and this one alone is listed by their revision and owner. -/
theorem requests_told_apart (issuances : List Issuance) :
    (stored issuances).size = (issuances.map subject).dedup.length ∧
      (∀ request, request ∈ (stored issuances).objects ↔
        ∃ issuance, issuance.request = request ∧ lastFor issuances issuance.subject = some issuance) ∧
      ∀ name secretName revision,
        ((stored issuances).lister.matchingAll Fixture.defaultScope .everything
            (fun test request => test request) (.test (CertificateRequest.hasRevision revision))
            [.test (CertificateRequest.isManagedBy
              (Fixture.make name secretName).certificate.metadata.uid)]).result.found =
          .ok ((lastFor issuances (name, revision)).map request).toList := by
  refine ⟨size_stored issuances, mem_stored_iff issuances, fun name secretName revision => ?_⟩
  have distinct : (stored issuances).objects.Nodup := (Store.keyed_ofList _).of_map
  refine Lister.found_only (list_stored issuances) distinct fun request => ?_
  rw [mem_stored_iff, Option.map_eq_some_iff]
  -- The tests accept a stored request only if it was made for this name and revision.
  constructor
  · rintro ⟨⟨issuance, rfl, last⟩, passes⟩
    rw [(issuance.madeFor_request.all_iff name revision).mp passes] at last
    exact ⟨issuance, last, rfl⟩
  · rintro ⟨issuance, last, rfl⟩
    have same := subject_of_lastFor last
    exact ⟨⟨issuance, rfl, same ▸ last⟩, (issuance.madeFor_request.all_iff name revision).mpr same⟩

end Issuance

end CertLifecycle
