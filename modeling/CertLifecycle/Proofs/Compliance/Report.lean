import CertLifecycle.Compliance.Check
import CertLifecycle.Proofs.Collection.SameElements
import Mathlib.Data.List.Sort

/-!
What the compliance checks report. `Violation.Arises` says for each field, without computing, when the
declaration and what was observed disagree about it. Main result:
`requestViolations_reports_disagreements`, the check of a request fails only where decoding fails, and
otherwise reports exactly the fields that disagree, each once and in the fixed order.
-/

namespace CertLifecycle

open Collection (SameSet sameElements_eq_false)

namespace CertificateSpec

/-- The subject that is compared: the declared one, or one with every field empty. -/
def comparedSubject (spec : CertificateSpec) : SubjectFields :=
  spec.subject.getD ⟨[], [], [], [], [], [], [], ""⟩

end CertificateSpec

namespace Violation

/-- When a field disagrees between a declaration, the terms of a request, and the names that its
signing request carries. -/
def Arises [Uri.Idna] (spec : CertificateSpec) (requested : RequestSpec) (names : ArtifactNames) :
    Violation → Prop
  | .commonName => names.subject.commonName ≠ spec.commonName
  | .dnsNames => ¬SameSet names.dnsNames spec.dnsNames
  | .ipAddresses =>
    ¬SameSet (names.ipAddresses.map Ip.Address.canonicalText)
      (spec.ipAddresses.map Ip.Address.normalize)
  | .uris => ¬SameSet (names.uris.map Uri.text) (spec.uris.map Uri.normalize)
  | .serialNumber => names.subject.serialNumber ≠ spec.comparedSubject.serialNumber
  | .organizations => ¬SameSet names.subject.organization spec.comparedSubject.organizations
  | .countries => ¬SameSet names.subject.country spec.comparedSubject.countries
  | .localities => ¬SameSet names.subject.locality spec.comparedSubject.localities
  | .organizationalUnits =>
    ¬SameSet names.subject.organizationalUnit spec.comparedSubject.organizationalUnits
  | .postalCodes => ¬SameSet names.subject.postalCode spec.comparedSubject.postalCodes
  | .provinces => ¬SameSet names.subject.province spec.comparedSubject.provinces
  | .streetAddresses => ¬SameSet names.subject.streetAddress spec.comparedSubject.streetAddresses
  | .isCa => requested.isCa ≠ spec.isCa
  | .usages => ¬SameSet requested.usages spec.usages
  | .duration => ∃ declared asked, spec.duration = some declared ∧ requested.duration = some asked ∧
      declared ≠ asked
  | .issuer => ¬(spec.issuer.name = requested.issuer.name ∧
      spec.issuer.kind = requested.issuer.kind ∧ spec.issuer.group = requested.issuer.group)

/-- The fields about the names of an artifact. -/
def nameFields : List Violation :=
  [.commonName, .dnsNames, .ipAddresses, .uris]

/-- The fields about the rest of the subject. -/
def subjectFields : List Violation :=
  [.serialNumber, .organizations, .countries, .localities, .organizationalUnits, .postalCodes,
    .provinces, .streetAddresses]

/-- The fields about the terms of a request. -/
def termFields : List Violation :=
  [.isCa, .usages, .duration, .issuer]

theorem nodup_all : all.Nodup := by decide

theorem mem_reportUnless {agrees : Bool} {field reported : Violation} :
    reported ∈ reportUnless agrees field ↔ reported = field ∧ agrees = false := by
  cases agrees <;> simp [reportUnless]

theorem reportUnless_sublist (agrees : Bool) (field : Violation) :
    (reportUnless agrees field).Sublist [field] := by
  cases agrees <;> simp [reportUnless]

/-- A list in the order of reports is determined by its fields. -/
theorem eq_of_sublist_all {first second : List Violation} (ordered : first.Sublist all)
    (ordered' : second.Sublist all) (same : ∀ field, field ∈ first ↔ field ∈ second) :
    first = second := by
  -- Both lists ascend by the place of a field among all of them.
  have increasing : all.Pairwise fun a b => all.idxOf a < all.idxOf b := by decide
  have irreflexive : Std.Irrefl fun a b : Violation => all.idxOf a < all.idxOf b :=
    ⟨fun a => Nat.lt_irrefl _⟩
  have antisymmetric : Std.Antisymm fun a b : Violation => all.idxOf a < all.idxOf b :=
    ⟨fun a b below above => absurd below (Nat.lt_asymm above)⟩
  exact (increasing.sublist ordered).eq_of_mem_iff (increasing.sublist ordered') same

end Violation

namespace CertificateSpec

open Violation

variable (spec : CertificateSpec) (requested : RequestSpec) (names : ArtifactNames)

theorem nameViolations_sublist [Uri.Idna] : (spec.nameViolations names).Sublist nameFields :=
  (((reportUnless_sublist _ _).append (reportUnless_sublist _ _)).append
    (reportUnless_sublist _ _)).append (reportUnless_sublist _ _)

theorem subjectViolations_sublist (observed : DistinguishedName) :
    (spec.subjectViolations observed).Sublist subjectFields :=
  (((((((reportUnless_sublist _ _).append (reportUnless_sublist _ _)).append
    (reportUnless_sublist _ _)).append (reportUnless_sublist _ _)).append
    (reportUnless_sublist _ _)).append (reportUnless_sublist _ _)).append
    (reportUnless_sublist _ _)).append (reportUnless_sublist _ _)

theorem termViolations_sublist : (spec.termViolations requested).Sublist termFields :=
  (((reportUnless_sublist _ _).append (reportUnless_sublist _ _)).append
    (reportUnless_sublist _ _)).append (reportUnless_sublist _ _)

theorem durationsAgree_eq_false {declared asked : Option Duration} :
    durationsAgree declared asked = false ↔
      ∃ a b, declared = some a ∧ asked = some b ∧ a ≠ b := by
  cases declared <;> cases asked <;> simp [durationsAgree]

theorem issuer_agrees_eq_false {a b : IssuerRef} :
    a.agrees b = false ↔ ¬(a.name = b.name ∧ a.kind = b.kind ∧ a.group = b.group) := by
  rw [← Bool.not_eq_true, IssuerRef.agrees]
  simp [and_assoc]

variable {spec requested names} [Uri.Idna]

theorem mem_nameViolations {field : Violation} :
    field ∈ spec.nameViolations names ↔
      field ∈ nameFields ∧ field.Arises spec requested names := by
  simp only [nameViolations, List.mem_append, mem_reportUnless, beq_eq_false_iff_ne,
    sameElements_eq_false]
  cases field <;> simp [nameFields, Arises, ArtifactNames.ipTexts, ArtifactNames.uriTexts]

theorem mem_subjectViolations {field : Violation} :
    field ∈ spec.subjectViolations names.subject ↔
      field ∈ subjectFields ∧ field.Arises spec requested names := by
  simp only [subjectViolations, List.mem_append, mem_reportUnless, beq_eq_false_iff_ne,
    sameElements_eq_false]
  cases field <;> simp [subjectFields, Arises, comparedSubject]

theorem mem_termViolations {field : Violation} :
    field ∈ spec.termViolations requested ↔
      field ∈ termFields ∧ field.Arises spec requested names := by
  simp only [termViolations, List.mem_append, mem_reportUnless, beq_eq_false_iff_ne,
    sameElements_eq_false, durationsAgree_eq_false, issuer_agrees_eq_false]
  cases field <;> simp [termFields, Arises]

/-- A list of fields reports the disagreements: it has exactly the fields that disagree, each once
and in the fixed order. -/
structure Reports (spec : CertificateSpec) (requested : RequestSpec) (names : ArtifactNames)
    (report : List Violation) : Prop where
  ordered : report.Sublist Violation.all
  once : report.Nodup
  members : ∀ field, field ∈ report ↔ field.Arises spec requested names

theorem reports_violations : spec.Reports requested names
    (spec.nameViolations names ++ spec.subjectViolations names.subject
      ++ spec.termViolations requested) := by
  have ordered := ((spec.nameViolations_sublist names).append
    (spec.subjectViolations_sublist names.subject)).append (spec.termViolations_sublist requested)
  refine ⟨ordered, nodup_all.sublist ordered, fun field => ?_⟩
  -- Each part reports the disagreements about its own fields, and the parts share out all fields.
  rw [List.mem_append, List.mem_append, @mem_nameViolations spec requested names,
    @mem_subjectViolations spec requested names, @mem_termViolations spec requested names]
  constructor
  · rintro ((⟨_, arises⟩ | ⟨_, arises⟩) | ⟨_, arises⟩) <;> exact arises
  · intro arises
    have listed : field ∈ nameFields ++ subjectFields ++ termFields := by cases field <;> decide
    simp only [List.mem_append] at listed
    rcases listed with (name | subject) | term
    · exact .inl (.inl ⟨name, arises⟩)
    · exact .inl (.inr ⟨subject, arises⟩)
    · exact .inr ⟨term, arises⟩

theorem Reports.unique {first second : List Violation} (left : spec.Reports requested names first)
    (right : spec.Reports requested names second) : first = second :=
  eq_of_sublist_all left.ordered right.ordered fun field =>
    (left.members field).trans (right.members field).symm

theorem requestViolations_of_decoded {decoder : Decoder (Except DecodeError)}
    {request : CertificateRequest} (decoded : decoder.request request.spec.csr = .ok names) :
    spec.requestViolations decoder request =
      .ok (spec.nameViolations names ++ spec.subjectViolations names.subject
        ++ spec.termViolations request.spec) := by
  rw [requestViolations, decoded]
  rfl

theorem secretViolations_of_decoded {decoder : Decoder (Except DecodeError)} {secret : Secret}
    (decoded : decoder.certificate secret.certificateBytes = .ok names) :
    spec.secretViolations decoder secret = .ok (spec.nameViolations names) := by
  rw [secretViolations, decoded]
  rfl

/-- The check of a request reports the disagreements about the decoded names, or fails with the
failure of the decoder. -/
theorem requestViolations_reports_disagreements (spec : CertificateSpec)
    (decoder : Decoder (Except DecodeError)) (request : CertificateRequest) :
    (∀ error, spec.requestViolations decoder request = .error error ↔
      decoder.request request.spec.csr = .error error) ∧
    (∀ report, spec.requestViolations decoder request = .ok report ↔
      ∃ names, decoder.request request.spec.csr = .ok names ∧
        spec.Reports request.spec names report) := by
  unfold requestViolations
  cases decoded : decoder.request request.spec.csr with
  | error failure => simp [bind, Except.bind]
  | ok names =>
    refine ⟨fun error => by simp [bind, Except.bind, pure, Except.pure], fun report => ?_⟩
    simp only [bind, Except.bind, pure, Except.pure, Except.ok.injEq]
    constructor
    · rintro rfl
      exact ⟨names, rfl, reports_violations⟩
    · rintro ⟨_, rfl, reports⟩
      exact reports_violations.unique reports

end CertificateSpec

end CertLifecycle
