import CertLifecycle.Proofs.Compliance.Addresses

/-!
The check of a secret looks at the names only. Main result: `secretViolations_sees_names_only`. On one
artifact it gives the first part of what the check of a request gives, which is its part about the names;
nothing but the names of declaration and artifact has any influence on it; and where the certificate
cannot be decoded, the failure of the decoder is all there is.
-/

namespace CertLifecycle

open Violation (nameFields)

/-- Declarations of the same names, whatever else they declare. -/
structure CertificateSpec.SameNames (first second : CertificateSpec) : Prop where
  commonName : first.commonName = second.commonName
  dnsNames : first.dnsNames = second.dnsNames
  ipAddresses : first.ipAddresses = second.ipAddresses
  uris : first.uris = second.uris

/-- Artifacts with the same names, whatever the rest of their subjects. -/
structure ArtifactNames.SameNames (first second : ArtifactNames) : Prop where
  commonName : first.subject.commonName = second.subject.commonName
  dnsNames : first.dnsNames = second.dnsNames
  ipAddresses : first.ipAddresses = second.ipAddresses
  uris : first.uris = second.uris

namespace CertificateSpec

theorem filter_of_mem {fields report : List Violation} (inside : ∀ field ∈ report, field ∈ fields) :
    report.filter (· ∈ fields) = report := by
  rw [List.filter_eq_self]
  intro field member
  exact decide_eq_true (inside field member)

theorem filter_of_not_mem {fields report : List Violation} (outside : ∀ field ∈ report, field ∉ fields) :
    report.filter (· ∈ fields) = [] := by
  rw [List.filter_eq_nil_iff]
  intro field member
  rw [decide_eq_true_eq]
  exact outside field member

section Checks

variable [Uri.Idna] {spec spec' : CertificateSpec} {names names' : ArtifactNames}

theorem filter_violations (requested : RequestSpec) :
    (spec.nameViolations names ++ spec.subjectViolations names.subject
      ++ spec.termViolations requested).filter (· ∈ nameFields) = spec.nameViolations names := by
  -- The three parts report different fields, so the filter keeps the first one and drops the others.
  have named : ∀ field ∈ spec.nameViolations names, field ∈ nameFields := by
    intro field member
    exact (spec.nameViolations_sublist names).subset member
  have subject : ∀ field ∈ spec.subjectViolations names.subject, field ∉ nameFields := by
    intro field member
    have known := (spec.subjectViolations_sublist names.subject).subset member
    revert known
    cases field <;> decide
  have terms : ∀ field ∈ spec.termViolations requested, field ∉ nameFields := by
    intro field member
    have known := (spec.termViolations_sublist requested).subset member
    revert known
    cases field <;> decide
  rw [List.filter_append, List.filter_append, filter_of_mem named, filter_of_not_mem subject,
    filter_of_not_mem terms, List.append_nil, List.append_nil]

theorem nameViolations_eq_of_sameNames (specs : spec.SameNames spec')
    (artifacts : names.SameNames names') : spec.nameViolations names = spec'.nameViolations names' := by
  have addresses : names.ipTexts = names'.ipTexts := by
    rw [ArtifactNames.ipTexts, ArtifactNames.ipTexts, artifacts.ipAddresses]
  have uris : names.uriTexts = names'.uriTexts := by
    rw [ArtifactNames.uriTexts, ArtifactNames.uriTexts, artifacts.uris]
  rw [nameViolations, nameViolations, specs.commonName, specs.dnsNames, specs.ipAddresses, specs.uris,
    artifacts.commonName, artifacts.dnsNames, addresses, uris]

theorem secretViolations_eq_error_iff {decoder : Decoder (Except DecodeError)} {secret : Secret}
    {error : DecodeError} :
    spec.secretViolations decoder secret = .error error ↔
      decoder.certificate secret.certificateBytes = .error error := by
  cases decoded : decoder.certificate secret.certificateBytes with
  | error failure => simp [secretViolations, decoded, bind, Except.bind]
  | ok names => simp [secretViolations_of_decoded decoded]

/-- The check of a secret gives the part about names of what the check of a request gives for the same
artifact, and that part comes first. It depends on the names of the declaration and of the artifact alone,
and fails exactly as the decoder fails on the bytes kept as the certificate, or on no bytes if there are
none. -/
theorem secretViolations_sees_names_only :
    (∀ (spec : CertificateSpec) (decoder : Decoder (Except DecodeError)) (request : CertificateRequest)
      (secret : Secret) (names : ArtifactNames),
      decoder.request request.spec.csr = .ok names →
      decoder.certificate secret.certificateBytes = .ok names →
      ∃ narrow wide, spec.secretViolations decoder secret = .ok narrow ∧
        spec.requestViolations decoder request = .ok wide ∧
        narrow <+: wide ∧ narrow = wide.filter (· ∈ nameFields)) ∧
    (∀ (spec spec' : CertificateSpec) (decoder decoder' : Decoder (Except DecodeError))
      (secret secret' : Secret) (names names' : ArtifactNames),
      spec.SameNames spec' → names.SameNames names' →
      decoder.certificate secret.certificateBytes = .ok names →
      decoder'.certificate secret'.certificateBytes = .ok names' →
      ∃ report, spec.secretViolations decoder secret = .ok report ∧
        spec'.secretViolations decoder' secret' = .ok report) ∧
    (∀ (spec : CertificateSpec) (decoder : Decoder (Except DecodeError)) (secret : Secret)
      (error : DecodeError),
      spec.secretViolations decoder secret = .error error ↔
        decoder.certificate ((secret.data.get? "tls.crt").getD []) = .error error) := by
  refine ⟨?_, ?_, ?_⟩
  · intro spec decoder request secret names decoded decoded'
    refine ⟨_, _, secretViolations_of_decoded decoded', requestViolations_of_decoded decoded, ?_, ?_⟩
    · rw [List.append_assoc]
      exact List.prefix_append _ _
    · exact (filter_violations request.spec).symm
  · intro spec spec' decoder decoder' secret secret' names names' specs artifacts decoded decoded'
    refine ⟨_, secretViolations_of_decoded decoded, ?_⟩
    rw [secretViolations_of_decoded decoded', nameViolations_eq_of_sameNames specs artifacts]
  · intro spec decoder secret error
    exact secretViolations_eq_error_iff

end Checks

/-- Two declarations and two artifacts that differ in everything but the names: the checks of the secrets
agree, and the check of a request goes on after them. -/
theorem other_fields_not_seen :
    letI := Uri.Idna.sample
    (∃ narrow wide, (declaring ["10.0.0.1"]).secretViolations (.always { dnsNames := ["a"] })
        ⟨.named "default" "tls", ∅⟩ = .ok narrow ∧
      (declaring ["10.0.0.1"]).requestViolations (.always { dnsNames := ["a"] }) .bare = .ok wide ∧
      narrow <+: wide ∧ narrow = wide.filter (· ∈ nameFields)) ∧
    ∃ report, (declaring ["10.0.0.1"]).secretViolations (.always { dnsNames := ["a"] })
        ⟨.named "default" "tls", ∅⟩ = .ok report ∧
      { declaring ["10.0.0.1"] with isCa := true, usages := [.any] }.secretViolations
        (.always { subject := { organization := ["acme"] }, dnsNames := ["a"] })
        ⟨.named "other" "copy", ∅⟩ = .ok report := by
  let := Uri.Idna.sample
  obtain ⟨overlap, narrow, _⟩ := secretViolations_sees_names_only
  refine ⟨overlap _ _ _ _ _ rfl rfl, narrow _ _ _ _ _ _ _ _ ?_ ?_ rfl rfl⟩
  · exact ⟨rfl, rfl, rfl, rfl⟩
  · exact ⟨rfl, rfl, rfl, rfl⟩

end CertificateSpec

end CertLifecycle
