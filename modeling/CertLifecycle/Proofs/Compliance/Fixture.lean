import CertLifecycle.Fixture.Basic
import CertLifecycle.Proofs.Cbor.Names
import CertLifecycle.Proofs.Compliance.Report
import CertLifecycle.Proofs.Uri.Reread

/-!
How far the ready-made requests and secrets comply. A declared address or URI that cannot be read is left out
of their names, but the checks compare with it as it stands. It never equals the text of one that can be read,
because such a text is read again; for URIs that rests on the law of `LawfulIdna`. Main result:
`compliant_as_far_as_readable`.
-/

namespace CertLifecycle

open Collection (SameSet sameElements sameElements_iff)

section Readable

variable {α : Type} {read : String → Option α} {write : α → String}

/-- The texts of what can be read are the normal texts of everything only if everything can be read. -/
theorem sameSet_filterMap_iff
    (back : ∀ text value, read text = some value → (read (write value)).isSome) (texts : List String) :
    SameSet ((texts.filterMap read).map write)
        (texts.map fun text => ((read text).map write).getD text) ↔
      ¬∃ text ∈ texts, read text = none := by
  constructor
  · rintro same ⟨text, member, unread⟩
    -- A text that cannot be read is its own normal text, but it is not what any value is written as.
    have listed := (same _).mpr (List.mem_map_of_mem member)
    obtain ⟨value, known, equal⟩ := List.mem_map.mp listed
    obtain ⟨origin, _, reads⟩ := List.mem_filterMap.mp known
    have readable := back origin value reads
    rw [unread, Option.map_none, Option.getD_none] at equal
    rw [equal, unread] at readable
    cases readable
  · intro readable form
    rw [List.mem_map, List.mem_map]
    constructor
    · rintro ⟨value, known, rfl⟩
      obtain ⟨text, member, reads⟩ := List.mem_filterMap.mp known
      exact ⟨text, member, by simp [reads]⟩
    · rintro ⟨text, member, rfl⟩
      have found : read text ≠ none := fun unread => readable ⟨text, member, unread⟩
      obtain ⟨value, reads⟩ := Option.ne_none_iff_exists'.mp found
      exact ⟨value, List.mem_filterMap.mpr ⟨text, member, reads⟩, by simp [reads]⟩

end Readable

namespace CertificateSpec

/-- A comparison reports its field exactly if a condition fails. -/
theorem reportUnless_of_iff {agrees : Bool} {P : Prop} [Decidable P] (field : Violation)
    (decides : agrees = true ↔ ¬P) :
    Violation.reportUnless agrees field = if P then [field] else [] := by
  by_cases fails : P
  · rw [if_pos fails]
    have differs : agrees = false := by simpa [fails] using decides
    rw [differs]
    rfl
  · rw [if_neg fails, decides.mpr fails]
    rfl

section Names

variable [Uri.Idna]

/-- The fields with a declared text that cannot be read. No names comply with them. -/
def unreadableFields (spec : CertificateSpec) : List Violation :=
  (if ∃ text ∈ spec.ipAddresses, Ip.Address.parse? text = none then [.ipAddresses] else []) ++
    if ∃ text ∈ spec.uris, Uri.parse? text = none then [.uris] else []

theorem unreadableFields_eq_nil_iff (spec : CertificateSpec) :
    spec.unreadableFields = [] ↔
      (∀ text ∈ spec.ipAddresses, (Ip.Address.parse? text).isSome) ∧
        ∀ text ∈ spec.uris, (Uri.parse? text).isSome := by
  simp [unreadableFields, Option.isSome_iff_ne_none]

theorem nameViolations_compliantNames [Uri.LawfulIdna] (spec : CertificateSpec) :
    spec.nameViolations spec.compliantNames = spec.unreadableFields := by
  have addresses : sameElements spec.compliantNames.ipTexts
      (spec.ipAddresses.map Ip.Address.normalize) = true ↔
        ¬∃ text ∈ spec.ipAddresses, Ip.Address.parse? text = none := by
    rw [sameElements_iff]
    refine sameSet_filterMap_iff (fun _ ip _ => ?_) spec.ipAddresses
    rw [Ip.Address.parse?_canonicalText, Option.isSome_some]
  have uris : sameElements spec.compliantNames.uriTexts (spec.uris.map Uri.normalize) = true ↔
      ¬∃ text ∈ spec.uris, Uri.parse? text = none := by
    have back (text : String) (uri : Uri) (reads : Uri.parse? text = some uri) :
        (Uri.parse? uri.text).isSome :=
      Uri.isSome_parse?_text reads
    rw [sameElements_iff]
    exact sameSet_filterMap_iff back spec.uris
  rw [nameViolations, reportUnless_of_iff _ addresses, reportUnless_of_iff _ uris]
  simp [compliantNames, Violation.reportUnless, unreadableFields]

theorem subjectViolations_compliantNames (spec : CertificateSpec) :
    spec.subjectViolations spec.compliantNames.subject = [] := by
  simp [subjectViolations, compliantNames, Violation.reportUnless]

end Names

theorem termViolations_requestWith (fixture : Fixture) (revision : UInt32) (names : ArtifactNames) :
    fixture.certificate.spec.termViolations (fixture.requestWith revision names).spec = [] := by
  have durations (duration : Option Duration) : durationsAgree duration duration = true := by
    cases duration <;> simp [durationsAgree]
  simp [termViolations, Fixture.requestWith, Violation.reportUnless, durations,
    IssuerRef.agrees]

end CertificateSpec

namespace Fixture

open ArtifactNames (cborDecoder decoded_of_readBack)

theorem certificateBytes_secretWith (fixture : Fixture) (names : ArtifactNames) :
    (fixture.secretWith names).certificateBytes = names.toCbor := by
  simp [secretWith, Secret.certificateBytes, Secret.withData]

/-- Whatever a certificate declares, the request and the secret made for it are reported for declared
addresses and URIs that cannot be read, and for nothing else. -/
theorem compliant_as_far_as_readable [Uri.Idna] [Uri.LawfulIdna] (fixture : Fixture) (revision : UInt32)
    (decoder : Decoder (Except DecodeError))
    (request : decoder.request fixture.compliantNames.toCbor = .ok fixture.compliantNames)
    (certificate : decoder.certificate fixture.compliantNames.toCbor = .ok fixture.compliantNames) :
    fixture.certificate.spec.requestViolations decoder
        (fixture.requestWith revision fixture.compliantNames) =
      .ok fixture.certificate.spec.unreadableFields ∧
    fixture.certificate.spec.secretViolations decoder (fixture.secretWith fixture.compliantNames) =
      .ok fixture.certificate.spec.unreadableFields ∧
    (fixture.certificate.spec.unreadableFields = [] ↔
      (∀ text ∈ fixture.certificate.spec.ipAddresses, (Ip.Address.parse? text).isSome) ∧
        ∀ text ∈ fixture.certificate.spec.uris, (Uri.parse? text).isSome) := by
  have names := fixture.certificate.spec.nameViolations_compliantNames
  refine ⟨?_, ?_, fixture.certificate.spec.unreadableFields_eq_nil_iff⟩
  · rw [CertificateSpec.requestViolations_of_decoded request, compliantNames, names,
      CertificateSpec.subjectViolations_compliantNames,
      CertificateSpec.termViolations_requestWith, List.append_nil, List.append_nil]
  · rw [← certificateBytes_secretWith] at certificate
    rw [CertificateSpec.secretViolations_of_decoded certificate, compliantNames, names]

/-- An address and two URIs that can be read, one of them with a domain outside ASCII, beside texts that
cannot. -/
def partlyReadable : Fixture :=
  (Fixture.make "web" "web-tls").withSpec {
    commonName := "a.example"
    ipAddresses := ["10.0.0.1", "10.0.0.256"]
    uris := ["spiffe://td/web", "//td/web", "http://exämple.com/", "http://xn--a/"]
    subject := some { organizations := ["acme"] }
    secretName := "web-tls"
    issuer := { name := "ca" } }

theorem partlyReadable_reported :
    letI := Uri.Idna.sample
    Uri.LawfulIdna ∧
      cborDecoder.request partlyReadable.compliantNames.toCbor = .ok partlyReadable.compliantNames ∧
      cborDecoder.certificate partlyReadable.compliantNames.toCbor = .ok partlyReadable.compliantNames ∧
      partlyReadable.compliantNames.ipTexts = ["10.0.0.1"] ∧
      partlyReadable.compliantNames.uriTexts = ["spiffe://td/web", "http://xn--exmple-cua.com/"] ∧
      partlyReadable.certificate.spec.requestViolations cborDecoder
        (partlyReadable.requestWith 7 partlyReadable.compliantNames) = .ok [.ipAddresses, .uris] ∧
      partlyReadable.certificate.spec.secretViolations cborDecoder
        (partlyReadable.secretWith partlyReadable.compliantNames) = .ok [.ipAddresses, .uris] := by
  let := Uri.Idna.sample
  have lawful : Uri.LawfulIdna := Uri.lawfulIdna_sample
  have fits : Cbor.Fits partlyReadable.compliantNames.toCbor := by
    rw [Cbor.Fits]
    decide +kernel
  have back : ∀ uri ∈ partlyReadable.compliantNames.uris,
      (Text.utf8 uri.text).length ≤ 4096 ∧ Uri.parse? uri.text = some uri := by
    decide +kernel
  have unreadable : partlyReadable.certificate.spec.unreadableFields = [.ipAddresses, .uris] := by
    decide +kernel
  obtain ⟨request, certificate⟩ := decoded_of_readBack fits back
  obtain ⟨ofRequest, ofSecret, _⟩ := compliant_as_far_as_readable partlyReadable 7 cborDecoder
    request certificate
  rw [unreadable] at ofRequest ofSecret
  exact ⟨lawful, request, certificate, by decide +kernel, by decide +kernel, ofRequest, ofSecret⟩

end Fixture

end CertLifecycle
