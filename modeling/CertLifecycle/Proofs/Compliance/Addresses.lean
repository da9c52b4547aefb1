import CertLifecycle.Proofs.Compliance.Report
import CertLifecycle.Proofs.Ip.Text
import CertLifecycle.Proofs.Uri.Domain

/-!
The comparison of address texts decides whether two sets of addresses are the same. Main result:
`ipAddresses_reported_iff`, both checks report the addresses unless every declared text is an address and
the declared and the observed addresses are the same hosts.
-/

namespace CertLifecycle

open Collection (SameSet)
open Ip (Address)
open Ip.Address (Same)

/-- A decoder that finds the same names in every artifact. -/
def Decoder.always (names : ArtifactNames) : Decoder (Except DecodeError) :=
  ⟨fun _ => .ok names, fun _ => .ok names⟩

def CertificateRequest.bare : CertificateRequest :=
  { metadata := .named "default" "web-1", spec := { csr := [], issuer := { name := "ca" } } }

def Ip.Address.loopback : Address :=
  .v6 ⟨[0, 0, 0, 0, 0, 0, 0, 1], rfl⟩

namespace CertificateSpec

/-- Texts declare exactly a set of addresses: each text is an address, one of the set, and the set has no
others. -/
structure DeclaresAddresses (texts : List String) (observed : List Address) : Prop where
  readable : ∀ text ∈ texts, (Address.parse? text).isSome
  present : ∀ text ∈ texts, ∀ ip, Address.parse? text = some ip → ∃ seen ∈ observed, Same seen ip
  declared : ∀ seen ∈ observed, ∃ text ∈ texts, ∃ ip, Address.parse? text = some ip ∧ Same seen ip

theorem sameSet_addressTexts_iff {texts : List String} {observed : List Address} :
    SameSet (observed.map Address.canonicalText) (texts.map Address.normalize) ↔
      DeclaresAddresses texts observed := by
  constructor
  · intro same
    have seen : ∀ text ∈ texts, ∃ ip ∈ observed, ∃ other, Address.parse? text = some other ∧
        Same ip other := by
      intro text member
      have listed := (same _).mpr (List.mem_map_of_mem member)
      obtain ⟨ip, known, equal⟩ := List.mem_map.mp listed
      exact ⟨ip, known, Address.canonicalText_eq_normalize_iff.mp equal⟩
    refine ⟨fun text member => ?_, fun text member ip reads => ?_, fun ip member => ?_⟩
    · obtain ⟨_, _, _, reads, _⟩ := seen text member
      rw [reads, Option.isSome_some]
    · obtain ⟨host, known, other, found, equal⟩ := seen text member
      rw [reads, Option.some.injEq] at found
      exact ⟨host, known, found ▸ equal⟩
    · have listed := (same _).mp (List.mem_map_of_mem member)
      obtain ⟨text, known, equal⟩ := List.mem_map.mp listed
      exact ⟨text, known, Address.canonicalText_eq_normalize_iff.mp equal.symm⟩
  · rintro ⟨readable, present, declared⟩ form
    rw [List.mem_map, List.mem_map]
    constructor
    · rintro ⟨ip, member, rfl⟩
      obtain ⟨text, known, reads⟩ := declared ip member
      exact ⟨text, known, (Address.canonicalText_eq_normalize_iff.mpr reads).symm⟩
    · rintro ⟨text, member, rfl⟩
      obtain ⟨ip, reads⟩ := Option.isSome_iff_exists.mp (readable text member)
      obtain ⟨host, known, same⟩ := present text member ip reads
      exact ⟨host, known, Address.canonicalText_eq_normalize_iff.mpr ⟨ip, reads, same⟩⟩

instance (texts : List String) (observed : List Address) :
    Decidable (DeclaresAddresses texts observed) :=
  decidable_of_iff _ (Collection.sameElements_iff.trans sameSet_addressTexts_iff)

section Checks

variable [Uri.Idna] {spec : CertificateSpec} {names : ArtifactNames}

theorem ipAddresses_notMem_nameViolations_iff :
    .ipAddresses ∉ spec.nameViolations names ↔
      DeclaresAddresses spec.ipAddresses names.ipAddresses := by
  rw [← sameSet_addressTexts_iff, nameViolations]
  simp [Violation.mem_reportUnless, Collection.sameElements_eq_false, ArtifactNames.ipTexts]

/-- The addresses are a name field, so the other parts of a report say nothing about them. -/
theorem ipAddresses_mem_violations_iff (requested : RequestSpec) :
    .ipAddresses ∈ spec.nameViolations names ++ spec.subjectViolations names.subject
        ++ spec.termViolations requested ↔
      .ipAddresses ∈ spec.nameViolations names := by
  have subject : .ipAddresses ∉ spec.subjectViolations names.subject := fun member =>
    absurd ((spec.subjectViolations_sublist names.subject).subset member) (by decide)
  have terms : .ipAddresses ∉ spec.termViolations requested := fun member =>
    absurd ((spec.termViolations_sublist requested).subset member) (by decide)
  simp [subject, terms]

/-- Both checks of a decoded artifact leave the addresses out of the report exactly if the declared
texts are the observed addresses, up to the IPv6 form of an IPv4 address. A text that is no address is
always reported. -/
theorem ipAddresses_reported_iff (spec : CertificateSpec) (decoder : Decoder (Except DecodeError))
    (names : ArtifactNames) :
    (∀ request : CertificateRequest, decoder.request request.spec.csr = .ok names →
      ∃ report, spec.requestViolations decoder request = .ok report ∧
        (.ipAddresses ∉ report ↔ DeclaresAddresses spec.ipAddresses names.ipAddresses) ∧
        ((∃ text ∈ spec.ipAddresses, Address.parse? text = none) → .ipAddresses ∈ report)) ∧
    (∀ secret : Secret, decoder.certificate secret.certificateBytes = .ok names →
      ∃ report, spec.secretViolations decoder secret = .ok report ∧
        (.ipAddresses ∉ report ↔ DeclaresAddresses spec.ipAddresses names.ipAddresses) ∧
        ((∃ text ∈ spec.ipAddresses, Address.parse? text = none) → .ipAddresses ∈ report)) := by
  have unreadable : (∃ text ∈ spec.ipAddresses, Address.parse? text = none) →
      .ipAddresses ∈ spec.nameViolations names := by
    rintro ⟨text, member, unread⟩
    by_contra absent
    have readable := (ipAddresses_notMem_nameViolations_iff.mp absent).readable text member
    rw [unread] at readable
    exact absurd readable (by simp)
  refine ⟨fun request decoded => ?_, fun secret decoded => ?_⟩
  · refine ⟨_, by rw [requestViolations, decoded]; rfl, ?_, ?_⟩
    · rw [ipAddresses_mem_violations_iff]
      exact ipAddresses_notMem_nameViolations_iff
    · rw [ipAddresses_mem_violations_iff]
      exact unreadable
  · refine ⟨_, by rw [secretViolations, decoded]; rfl, ?_, unreadable⟩
    exact ipAddresses_notMem_nameViolations_iff

end Checks

def declaring (addresses : List String) : CertificateSpec :=
  { ipAddresses := addresses, secretName := "tls", issuer := { name := "ca" } }

/-- Two declared addresses in other spellings, one in the IPv6 form of an IPv4 address: neither check
reports them. -/
theorem respelled_addresses_not_reported :
    letI := Uri.Idna.sample
    (∃ report, (declaring ["::FFFF:10.0.0.1", "0:0::0:1"]).requestViolations
        (.always { ipAddresses := [.loopback, .v4 ⟨10, 0, 0, 1⟩] }) .bare = .ok report ∧
      .ipAddresses ∉ report) ∧
    ∃ report, (declaring ["::FFFF:10.0.0.1", "0:0::0:1"]).secretViolations
        (.always { ipAddresses := [.loopback, .v4 ⟨10, 0, 0, 1⟩] }) ⟨.named "default" "tls", ∅⟩ =
      .ok report ∧ .ipAddresses ∉ report := by
  let := Uri.Idna.sample
  have same : DeclaresAddresses ["::FFFF:10.0.0.1", "0:0::0:1"] [.loopback, .v4 ⟨10, 0, 0, 1⟩] := by
    decide
  obtain ⟨requests, secrets⟩ := ipAddresses_reported_iff (declaring ["::FFFF:10.0.0.1", "0:0::0:1"])
    (.always { ipAddresses := [.loopback, .v4 ⟨10, 0, 0, 1⟩] })
    { ipAddresses := [.loopback, .v4 ⟨10, 0, 0, 1⟩] }
  obtain ⟨report, reported, absent, _⟩ := requests .bare rfl
  obtain ⟨report', reported', absent', _⟩ := secrets ⟨.named "default" "tls", ∅⟩ rfl
  exact ⟨⟨report, reported, absent.mpr same⟩, report', reported', absent'.mpr same⟩

end CertificateSpec

end CertLifecycle
