import CertLifecycle.Proofs.Compliance.Addresses

/-!
What the comparison does not see. Two sides are alike if they differ in order, repetition and spelling only:
lists hold the same values, addresses are the same hosts, URIs have one normal text, and a subject that is
not declared counts as an empty one. Main result: `same_violations_of_alike`, both checks then give the same
report, whether or not anything is reported.
-/

namespace CertLifecycle

open Collection (Matched SameSet)

namespace Ip.Address

instance (first second : Address) : Decidable (Same first second) :=
  decidable_of_iff _ canonical_eq_iff

/-- Two texts are spellings of the same host, or the same text. -/
def SameText (first second : String) : Prop :=
  first = second ∨ ∃ ip, parse? first = some ip ∧ ∃ ip', parse? second = some ip' ∧ Same ip ip'

theorem normalize_eq_of_sameText {first second : String} (same : SameText first second) :
    normalize first = normalize second := by
  rcases same with rfl | ⟨ip, reads, ip', reads', host⟩
  · rfl
  · rw [normalize_of_parse reads, normalize_of_parse reads', canonicalText, canonicalText,
      canonical_eq_iff.mpr host]

end Ip.Address

/-- Declared subjects that differ in order and repetition only. -/
structure SubjectFields.Alike (first second : SubjectFields) : Prop where
  organizations : SameSet first.organizations second.organizations
  countries : SameSet first.countries second.countries
  organizationalUnits : SameSet first.organizationalUnits second.organizationalUnits
  localities : SameSet first.localities second.localities
  provinces : SameSet first.provinces second.provinces
  streetAddresses : SameSet first.streetAddresses second.streetAddresses
  postalCodes : SameSet first.postalCodes second.postalCodes
  serialNumber : first.serialNumber = second.serialNumber

/-- Declarations that differ in order, repetition and spelling only. The name of the secret is not
compared with anything. -/
structure CertificateSpec.Alike [Uri.Idna] (first second : CertificateSpec) : Prop where
  commonName : first.commonName = second.commonName
  dnsNames : SameSet first.dnsNames second.dnsNames
  ipAddresses : Matched Ip.Address.SameText first.ipAddresses second.ipAddresses
  uris : Matched (fun s t => Uri.normalize s = Uri.normalize t) first.uris second.uris
  subject : first.comparedSubject.Alike second.comparedSubject
  isCa : first.isCa = second.isCa
  usages : SameSet first.usages second.usages
  duration : first.duration = second.duration
  issuer : first.issuer = second.issuer

structure RequestSpec.Alike (first second : RequestSpec) : Prop where
  isCa : first.isCa = second.isCa
  usages : SameSet first.usages second.usages
  duration : first.duration = second.duration
  issuer : first.issuer = second.issuer

/-- Subjects of artifacts that differ in order and repetition only. -/
structure DistinguishedName.Alike (first second : DistinguishedName) : Prop where
  commonName : first.commonName = second.commonName
  serialNumber : first.serialNumber = second.serialNumber
  organization : SameSet first.organization second.organization
  country : SameSet first.country second.country
  organizationalUnit : SameSet first.organizationalUnit second.organizationalUnit
  locality : SameSet first.locality second.locality
  province : SameSet first.province second.province
  streetAddress : SameSet first.streetAddress second.streetAddress
  postalCode : SameSet first.postalCode second.postalCode

structure ArtifactNames.Alike (first second : ArtifactNames) : Prop where
  subject : first.subject.Alike second.subject
  dnsNames : SameSet first.dnsNames second.dnsNames
  ipAddresses : Matched Ip.Address.Same first.ipAddresses second.ipAddresses
  uris : SameSet first.uris second.uris

namespace CertificateSpec

section Checks

variable [Uri.Idna] {spec spec' : CertificateSpec} {names names' : ArtifactNames}
  {requested requested' : RequestSpec}

/-- A field disagrees on one side exactly if it does on the other. -/
theorem arises_iff_of_alike (specs : spec.Alike spec') (terms : requested.Alike requested')
    (artifacts : names.Alike names') (field : Violation) :
    field.Arises spec requested names ↔ field.Arises spec' requested' names' := by
  cases field with
  | commonName =>
    rw [Violation.Arises, Violation.Arises, specs.commonName, artifacts.subject.commonName]
  | dnsNames => exact not_congr (artifacts.dnsNames.congr specs.dnsNames)
  | ipAddresses =>
    -- Both sides are compared as texts: addresses in canonical form, and declared texts as they normalise.
    have observed := artifacts.ipAddresses.sameSet_map fun ip ip' same =>
      congrArg Ip.Address.text (Ip.Address.canonical_eq_iff.mpr same)
    have declared := specs.ipAddresses.sameSet_map fun s t => Ip.Address.normalize_eq_of_sameText
    exact not_congr (observed.congr declared)
  | uris =>
    have declared := specs.uris.sameSet_map fun s t same => same
    exact not_congr ((artifacts.uris.map Uri.text).congr declared)
  | serialNumber =>
    rw [Violation.Arises, Violation.Arises, specs.subject.serialNumber, artifacts.subject.serialNumber]
  | organizations => exact not_congr (artifacts.subject.organization.congr specs.subject.organizations)
  | countries => exact not_congr (artifacts.subject.country.congr specs.subject.countries)
  | localities => exact not_congr (artifacts.subject.locality.congr specs.subject.localities)
  | organizationalUnits =>
    exact not_congr (artifacts.subject.organizationalUnit.congr specs.subject.organizationalUnits)
  | postalCodes => exact not_congr (artifacts.subject.postalCode.congr specs.subject.postalCodes)
  | provinces => exact not_congr (artifacts.subject.province.congr specs.subject.provinces)
  | streetAddresses =>
    exact not_congr (artifacts.subject.streetAddress.congr specs.subject.streetAddresses)
  | isCa => rw [Violation.Arises, Violation.Arises, specs.isCa, terms.isCa]
  | usages => exact not_congr (terms.usages.congr specs.usages)
  | duration => rw [Violation.Arises, Violation.Arises, specs.duration, terms.duration]
  | issuer => rw [Violation.Arises, Violation.Arises, specs.issuer, terms.issuer]

theorem Reports.of_alike (specs : spec.Alike spec') (terms : requested.Alike requested')
    (artifacts : names.Alike names') {report : List Violation}
    (reports : spec'.Reports requested' names' report) : spec.Reports requested names report := by
  refine ⟨reports.ordered, reports.once, ?_⟩
  intro field
  rw [reports.members field]
  exact (arises_iff_of_alike specs terms artifacts field).symm

theorem violations_eq_of_alike (specs : spec.Alike spec') (terms : requested.Alike requested')
    (artifacts : names.Alike names') :
    spec.nameViolations names ++ spec.subjectViolations names.subject ++ spec.termViolations requested =
      spec'.nameViolations names' ++ spec'.subjectViolations names'.subject
        ++ spec'.termViolations requested' :=
  reports_violations.unique (reports_violations.of_alike specs terms artifacts)

theorem nameViolations_eq_of_alike (specs : spec.Alike spec') (artifacts : names.Alike names') :
    spec.nameViolations names = spec'.nameViolations names' := by
  have fields : Violation.nameFields.Sublist Violation.all := by decide
  refine Violation.eq_of_sublist_all ((spec.nameViolations_sublist names).trans fields)
    ((spec'.nameViolations_sublist names').trans fields) ?_
  intro field
  -- The names do not depend on the terms of a request, so any request serves.
  have terms : CertificateRequest.bare.spec.Alike CertificateRequest.bare.spec :=
    ⟨rfl, fun _ => Iff.rfl, rfl, rfl⟩
  rw [mem_nameViolations, mem_nameViolations, arises_iff_of_alike specs terms artifacts]

/-- Declarations, requests and artifacts that are alike get one report, from the check of the request
and from the check of the secret. -/
theorem same_violations_of_alike {decoder decoder' : Decoder (Except DecodeError)}
    (specs : spec.Alike spec') (artifacts : names.Alike names') :
    (∀ request request' : CertificateRequest, request.spec.Alike request'.spec →
      decoder.request request.spec.csr = .ok names →
      decoder'.request request'.spec.csr = .ok names' →
      ∃ report, spec.requestViolations decoder request = .ok report ∧
        spec'.requestViolations decoder' request' = .ok report) ∧
    (∀ secret secret' : Secret,
      decoder.certificate secret.certificateBytes = .ok names →
      decoder'.certificate secret'.certificateBytes = .ok names' →
      ∃ report, spec.secretViolations decoder secret = .ok report ∧
        spec'.secretViolations decoder' secret' = .ok report) := by
  constructor
  · intro request request' terms decoded decoded'
    refine ⟨_, requestViolations_of_decoded decoded, ?_⟩
    rw [requestViolations_of_decoded decoded', violations_eq_of_alike specs terms artifacts]
  · intro secret secret' decoded decoded'
    refine ⟨_, secretViolations_of_decoded decoded, ?_⟩
    rw [secretViolations_of_decoded decoded', nameViolations_eq_of_alike specs artifacts]

end Checks

def plain : CertificateSpec :=
  { dnsNames := ["a", "b"], ipAddresses := ["10.0.0.1"],
    uris := ["https://example.com/", "http://exämple.com/"], usages := [.serverAuth],
    secretName := "tls", issuer := { name := "ca" } }

def respelled : CertificateSpec :=
  { dnsNames := ["b", "a", "b"], ipAddresses := ["::ffff:10.0.0.1", "10.0.0.1"],
    uris := ["http://xn--exmple-cua.com", "HTTPS://EXAMPLE.com"], subject := some {},
    usages := [.serverAuth, .serverAuth], secretName := "tls", issuer := { name := "ca" } }

theorem plain_alike_respelled :
    letI := Uri.Idna.sample
    plain.Alike respelled := by
  let := Uri.Idna.sample
  have addresses : Matched Ip.Address.SameText plain.ipAddresses respelled.ipAddresses := by
    have kept : Ip.Address.SameText "10.0.0.1" "10.0.0.1" := .inl rfl
    have mapped : Ip.Address.SameText "10.0.0.1" "::ffff:10.0.0.1" :=
      .inr ⟨_, rfl, _, rfl, .carried ⟨10, 0, 0, 1⟩⟩
    simp [plain, respelled, Matched, kept, mapped]
  -- A domain outside ASCII and the same domain in ASCII have one normal text.
  have uris : Matched (fun s t => Uri.normalize s = Uri.normalize t) plain.uris respelled.uris := by
    decide +kernel
  refine ⟨rfl, by decide, addresses, uris, ⟨?_, ?_, ?_, ?_, ?_, ?_, ?_, rfl⟩, rfl, by decide, rfl, rfl⟩
  all_goals decide

/-- The artifact of a host that lacks one of the names. -/
def partNames : ArtifactNames :=
  { dnsNames := ["b"], ipAddresses := [.v4 ⟨10, 0, 0, 1⟩] }

def respelledPartNames : ArtifactNames :=
  { dnsNames := ["b", "b"], ipAddresses := [.v6 (.ofV4 ⟨10, 0, 0, 1⟩)] }

/-- A declaration and a respelling of it get one report on an artifact and a respelling of it. -/
theorem respelled_declaration_same_report :
    letI := Uri.Idna.sample
    (∃ report, plain.requestViolations (.always partNames) .bare = .ok report ∧
      respelled.requestViolations (.always respelledPartNames) .bare = .ok report) ∧
    ∃ report, plain.secretViolations (.always partNames) ⟨.named "default" "tls", ∅⟩ = .ok report ∧
      respelled.secretViolations (.always respelledPartNames) ⟨.named "other" "tls", ∅⟩ =
        .ok report := by
  let := Uri.Idna.sample
  have artifacts : partNames.Alike respelledPartNames := by
    refine ⟨⟨rfl, rfl, ?_, ?_, ?_, ?_, ?_, ?_, ?_⟩, ?_, ?_, ?_⟩ <;> decide
  have terms : CertificateRequest.bare.spec.Alike CertificateRequest.bare.spec :=
    ⟨rfl, fun _ => Iff.rfl, rfl, rfl⟩
  obtain ⟨requests, secrets⟩ := same_violations_of_alike plain_alike_respelled artifacts
  exact ⟨requests .bare .bare terms rfl rfl, secrets _ _ rfl rfl⟩

end CertificateSpec

end CertLifecycle
