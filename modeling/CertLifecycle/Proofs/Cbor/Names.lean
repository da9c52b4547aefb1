import CertLifecycle.Cbor.Names
import CertLifecycle.Proofs.Cbor.Items
import CertLifecycle.Proofs.Collection.Traversal
import CertLifecycle.Proofs.Ip.Text
import CertLifecycle.Proofs.Uri.Domain
import CertLifecycle.Proofs.Uri.Urn

/-!
Decoded names are read back from their CBOR form. Records and addresses always are; a URI is, if its text
is short enough for the reader and is read as that URI. Main result: `decoders_undo_toCbor_iff`.
-/

namespace CertLifecycle

open Collection (mapM_eq_self_iff)
open Cbor (Fits Reader ofFields ofList ofText)
open Cbor.Reader (Written fits_of_written list_answers list_answers_self octets_answers record_answers
  text_answers variant_answers)

namespace Ip

namespace V6

theorem pairOctets?_octets (groups : List UInt16) :
    pairOctets? (groups.flatMap groupOctets) = some groups := by
  induction groups with
  | nil => rfl
  | cons group rest ih =>
    rw [List.flatMap_cons]
    change (pairOctets? (rest.flatMap groupOctets)).map _ = _
    rw [ih, Option.map_some, groupOf_groupOctets]

theorem ofOctets?_octets (ip : V6) : ofOctets? ip.octets = some ip := by
  rw [ofOctets?, octets, pairOctets?_octets]
  exact dif_pos ip.length_groups

theorem length_octets (ip : V6) : ip.octets.length = 16 := by
  have each : ∀ group ∈ ip.groups, (groupOctets group).length = 2 := fun _ _ => rfl
  rw [octets, List.length_flatMap, List.map_congr_left each, List.map_const', ip.length_groups]
  rfl

end V6

namespace Address

theorem readCbor_answers (ip : Address) : readCbor.Answers ip.toCbor (some ip) := by
  cases ip with
  | v4 ip =>
    have octets := octets_answers (show ip.octets.length = 4 from rfl) (by decide)
    exact variant_answers (by decide) rfl
      (octets.map fun octets => (V4.ofOctets? octets).map v4)
  | v6 ip =>
    have octets := (octets_answers ip.length_octets (by decide)).map fun octets =>
      (V6.ofOctets? octets).map v6
    rw [Option.bind_some, V6.ofOctets?_octets] at octets
    exact variant_answers (by decide) rfl octets

end Address

end Ip

namespace Uri

variable [Idna]

/-- What is read from the CBOR form of a URI: its text must not be too long, and must be a URI. -/
def readBack? (uri : Uri) : Option Uri :=
  if (Text.utf8 uri.text).length ≤ Reader.shortLimit then parse? uri.text else none

theorem readCbor_answers {uri : Uri} (fits : Fits uri.toCbor) :
    readCbor.Answers uri.toCbor uri.readBack? := by
  have read := (Cbor.Reader.shortText_answers fits).map parse?
  rw [readBack?]
  split at read
  next short =>
    rw [Option.bind_some] at read
    rw [if_pos short]
    exact read
  next long =>
    rw [Option.bind_none] at read
    rw [if_neg long]
    exact read

end Uri

namespace DistinguishedName

theorem texts_answers {texts : List String} (fits : Fits (ofList ofText texts)) :
    (Reader.list Reader.text).Answers (ofList ofText texts) (some texts) := by
  refine list_answers_self fits ?_ ?_
  · intro s _
    exact Cbor.ofText_ne_nil s
  · intro s _ fits
    exact text_answers fits

/-- The fields of a name as they are written. -/
def written (name : DistinguishedName) : List (Written DistinguishedName) :=
  let texts := ofList ofText
  [⟨"common_name", ofText name.commonName, some fun d => { d with commonName := name.commonName }⟩,
    ⟨"serial_number", ofText name.serialNumber, some fun d => { d with serialNumber := name.serialNumber }⟩,
    ⟨"organization", texts name.organization, some fun d => { d with organization := name.organization }⟩,
    ⟨"country", texts name.country, some fun d => { d with country := name.country }⟩,
    ⟨"organizational_unit", texts name.organizationalUnit,
      some fun d => { d with organizationalUnit := name.organizationalUnit }⟩,
    ⟨"locality", texts name.locality, some fun d => { d with locality := name.locality }⟩,
    ⟨"province", texts name.province, some fun d => { d with province := name.province }⟩,
    ⟨"street_address", texts name.streetAddress,
      some fun d => { d with streetAddress := name.streetAddress }⟩,
    ⟨"postal_code", texts name.postalCode, some fun d => { d with postalCode := name.postalCode }⟩]

theorem toCbor_eq (name : DistinguishedName) :
    name.toCbor = ofFields (name.written.map fun field => (field.name, field.bytes)) := rfl

theorem written_for {name : DistinguishedName} (fits : Fits name.toCbor) :
    ∀ field ∈ name.written, field.For cborFields := by
  rw [toCbor_eq] at fits
  have each := fits_of_written fits
  -- Each name of a field leads to the reader of that field, which answers with what was written there.
  simp only [written, List.forall_mem_cons] at each ⊢
  obtain ⟨common, serial, organization, country, unit, locality, province, street, postal, -⟩ := each
  refine ⟨⟨_, rfl, ?_⟩, ⟨_, rfl, ?_⟩, ⟨_, rfl, ?_⟩, ⟨_, rfl, ?_⟩, ⟨_, rfl, ?_⟩, ⟨_, rfl, ?_⟩,
    ⟨_, rfl, ?_⟩, ⟨_, rfl, ?_⟩, ⟨_, rfl, ?_⟩, by simp⟩
  · exact (text_answers common).pure_map _
  · exact (text_answers serial).pure_map _
  · exact (texts_answers organization).pure_map _
  · exact (texts_answers country).pure_map _
  · exact (texts_answers unit).pure_map _
  · exact (texts_answers locality).pure_map _
  · exact (texts_answers province).pure_map _
  · exact (texts_answers street).pure_map _
  · exact (texts_answers postal).pure_map _

theorem readCbor_answers {name : DistinguishedName} (fits : Fits name.toCbor) (room : Nat) :
    (readCbor room).Answers name.toCbor (some name) :=
  record_answers room (written_for fits) rfl (by decide) (by decide) (by decide) {}

end DistinguishedName

namespace ArtifactNames

open Ip (Address)

theorem addresses_answers {ips : List Address} (fits : Fits (ofList Address.toCbor ips)) :
    (Reader.list Address.readCbor).Answers (ofList Address.toCbor ips) (some ips) := by
  refine list_answers_self fits ?_ ?_
  · intro ip _
    cases ip <;> exact Cbor.ofFields_ne_nil _
  · intro ip _ _
    exact ip.readCbor_answers

theorem toCbor_ne_nil (names : ArtifactNames) : names.toCbor ≠ [] :=
  Cbor.ofFields_ne_nil _

theorem ofList_toCbor (uris : List Uri) :
    ofList Uri.toCbor uris = ofList ofText (uris.map Uri.text) := by
  simp only [ofList, List.length_map, List.flatMap_map]
  rfl

section Decoding

variable [Uri.Idna]

/-- The fields of names as they are written. A URI may not be read back. -/
def written (names : ArtifactNames) : List (Written ArtifactNames) :=
  [⟨"subject", names.subject.toCbor, some fun n => { n with subject := names.subject }⟩,
    ⟨"dns_names", ofList ofText names.dnsNames, some fun n => { n with dnsNames := names.dnsNames }⟩,
    ⟨"ip_addresses", ofList Address.toCbor names.ipAddresses,
      some fun n => { n with ipAddresses := names.ipAddresses }⟩,
    ⟨"uris", ofList Uri.toCbor names.uris,
      (names.uris.mapM Uri.readBack?).map fun uris n => { n with uris }⟩]

theorem toCbor_eq (names : ArtifactNames) :
    names.toCbor = ofFields (names.written.map fun field => (field.name, field.bytes)) := rfl

theorem fits_written {names : ArtifactNames} (fits : Fits names.toCbor) :
    Fits names.subject.toCbor ∧ Fits (ofList ofText names.dnsNames) ∧
      Fits (ofList Address.toCbor names.ipAddresses) ∧ Fits (ofList Uri.toCbor names.uris) := by
  rw [toCbor_eq] at fits
  have each := fits_of_written fits
  simp only [written, List.forall_mem_cons] at each
  exact ⟨each.1, each.2.1, each.2.2.1, each.2.2.2.1⟩

theorem uris_answers {uris : List Uri} (fits : Fits (ofList Uri.toCbor uris)) :
    (Reader.list Uri.readCbor).Answers (ofList Uri.toCbor uris) (uris.mapM Uri.readBack?) :=
  list_answers fits (fun uri _ => Cbor.ofText_ne_nil uri.text) fun _ _ fits => Uri.readCbor_answers fits

theorem written_for {names : ArtifactNames} (fits : Fits names.toCbor) :
    ∀ field ∈ names.written, field.For cborFields := by
  obtain ⟨subject, dns, ips, uris⟩ := fits_written fits
  simp only [written, List.forall_mem_cons]
  refine ⟨⟨_, rfl, ?_⟩, ⟨_, rfl, ?_⟩, ⟨_, rfl, ?_⟩, ⟨_, rfl, ?_⟩, by simp⟩
  · exact (DistinguishedName.readCbor_answers subject _).pure_map _
  · exact (DistinguishedName.texts_answers dns).pure_map _
  · exact (addresses_answers ips).pure_map _
  · exact (uris_answers uris).pure_map _

theorem names_cborFields :
    cborFields.map Prod.fst = ["subject", "dns_names", "ip_addresses", "uris"] := rfl

/-- Names are read back with the URIs that are read from the texts of theirs. -/
theorem readCbor_toCbor {names : ArtifactNames} (fits : Fits names.toCbor) :
    readCbor names.toCbor =
      (names.uris.mapM Uri.readBack?).map fun uris => ({ names with uris }, []) := by
  have short : ∀ name ∈ cborFields.map Prod.fst, (Text.utf8 name).length ≤ Reader.shortLimit := by
    rw [names_cborFields]
    decide
  have distinct : (cborFields.map Prod.fst).Nodup := by
    rw [names_cborFields]
    decide
  have few : cborFields.length < 2 ^ 64 := show 4 < 2 ^ 64 by decide
  have read := record_answers (cborDepth - 1) (written_for fits) rfl short distinct few {} []
  rw [← toCbor_eq, List.append_nil] at read
  rw [readCbor, read]
  cases back : names.uris.mapM Uri.readBack? <;> simp [Written.apply, written, back]

/-- Names are decoded if all their URIs are read back. Otherwise the form is malformed. -/
theorem ofCbor_toCbor {names : ArtifactNames} (fits : Fits names.toCbor) :
    (∀ uris, names.uris.mapM Uri.readBack? = some uris →
      ofCbor names.toCbor = .ok { names with uris }) ∧
    (names.uris.mapM Uri.readBack? = none →
      ∃ reason, ofCbor names.toCbor = .error (.malformed reason)) := by
  constructor
  · intro uris back
    simp [ofCbor, toCbor_ne_nil, readCbor_toCbor fits, back]
  · intro back
    simp [ofCbor, toCbor_ne_nil, readCbor_toCbor fits, back]

/-- A URI is read back as itself exactly if its text is short enough and is read as that URI. -/
theorem readBack?_eq_some_iff {uri : Uri} :
    uri.readBack? = some uri ↔
      (Text.utf8 uri.text).length ≤ 4096 ∧ Uri.parse? uri.text = some uri := by
  rw [Uri.readBack?, Reader.shortLimit]
  split
  next short => simp [short]
  next long => simp [long]

theorem ofCbor_toCbor_eq_ok_iff {names : ArtifactNames} (fits : Fits names.toCbor) :
    ofCbor names.toCbor = .ok names ↔
      ∀ uri ∈ names.uris, (Text.utf8 uri.text).length ≤ 4096 ∧ Uri.parse? uri.text = some uri := by
  have each : (∀ uri ∈ names.uris,
      (Text.utf8 uri.text).length ≤ 4096 ∧ Uri.parse? uri.text = some uri) ↔
      names.uris.mapM Uri.readBack? = some names.uris := by
    rw [mapM_eq_self_iff]
    exact forall₂_congr fun uri _ => readBack?_eq_some_iff.symm
  obtain ⟨decoded, refused⟩ := ofCbor_toCbor fits
  rw [each]
  cases back : names.uris.mapM Uri.readBack? with
  | none =>
    obtain ⟨reason, failed⟩ := refused back
    simp [failed]
  | some uris =>
    rw [decoded uris back, Except.ok.injEq, Option.some.injEq]
    constructor
    · intro same
      exact congrArg ArtifactNames.uris same
    · rintro rfl
      rfl

theorem decoded_of_readBack {names : ArtifactNames} (fits : Fits names.toCbor)
    (back : ∀ uri ∈ names.uris, (Text.utf8 uri.text).length ≤ 4096 ∧ Uri.parse? uri.text = some uri) :
    cborDecoder.request names.toCbor = .ok names ∧ cborDecoder.certificate names.toCbor = .ok names := by
  have decoded := (ofCbor_toCbor_eq_ok_iff fits).mpr back
  exact ⟨decoded, decoded⟩

theorem ofCbor_toCbor_of_long {names : ArtifactNames} (fits : Fits names.toCbor) {uri : Uri}
    (member : uri ∈ names.uris) (long : 4096 < (Text.utf8 uri.text).length) :
    ∃ reason, ofCbor names.toCbor = .error (.malformed reason) := by
  refine (ofCbor_toCbor fits).2 ?_
  -- One URI that is refused makes the list of them fail, wherever it stands.
  have refused : uri.readBack? = none := if_neg (Nat.not_le.mpr long)
  obtain ⟨before, after, whole⟩ := List.append_of_mem member
  rw [whole, List.mapM_append, List.mapM_cons, refused]
  cases before.mapM Uri.readBack? <;> rfl

/-- URIs that are what their texts read as are determined by their texts. -/
theorem uris_inj {uris uris' : List Uri}
    (back : ∀ uri ∈ uris ++ uris', Uri.parse? uri.text = some uri)
    (same : uris.map Uri.text = uris'.map Uri.text) : uris = uris' := by
  have read {uris : List Uri} (back : ∀ uri ∈ uris, Uri.parse? uri.text = some uri) :
      (uris.map Uri.text).map Uri.parse? = uris.map some := by
    rw [List.map_map]
    exact List.map_congr_left back
  apply List.map_injective_iff.mpr (Option.some_injective Uri)
  calc uris.map some = (uris.map Uri.text).map Uri.parse? :=
        (read fun uri member => back uri (List.mem_append_left uris' member)).symm
    _ = (uris'.map Uri.text).map Uri.parse? := by rw [same]
    _ = uris'.map some := read fun uri member => back uri (List.mem_append_right uris member)

/-- Names with one form are the same. How long a URI may be to be read does not matter for that. -/
theorem toCbor_inj {names other : ArtifactNames} (fits : Fits names.toCbor) (fits' : Fits other.toCbor)
    (back : ∀ uri ∈ names.uris ++ other.uris, Uri.parse? uri.text = some uri)
    (same : names.toCbor = other.toCbor) : names = other := by
  obtain ⟨subject, dns, ips, uris⟩ := fits_written fits
  obtain ⟨subject', dns', ips', uris'⟩ := fits_written fits'
  rw [ofList_toCbor] at uris uris'
  simp only [toCbor, ofFields, List.length_cons, List.flatMap_cons, List.flatMap_nil, List.append_assoc,
    ofList_toCbor] at same
  -- The form of the names is taken apart from the front, one part after the other.
  have parts := List.append_cancel_left (List.append_cancel_left same)
  obtain ⟨sameSubject, parts⟩ := (DistinguishedName.readCbor_answers subject 0).unique
    (DistinguishedName.readCbor_answers subject' 0) parts
  obtain ⟨sameDns, parts⟩ := (DistinguishedName.texts_answers dns).unique
    (DistinguishedName.texts_answers dns') (List.append_cancel_left parts)
  obtain ⟨sameIps, parts⟩ := (addresses_answers ips).unique (addresses_answers ips')
    (List.append_cancel_left parts)
  obtain ⟨sameTexts, -⟩ := (DistinguishedName.texts_answers uris).unique
    (DistinguishedName.texts_answers uris') (List.append_cancel_left parts)
  have sameUris := uris_inj back sameTexts
  cases names
  cases other
  simp only at sameSubject sameDns sameIps sameUris
  rw [sameSubject, sameDns, sameIps, sameUris]

/-- Both decoders give names back from their form exactly if every URI is short enough to be read in one
piece and is what its own text reads as. A URI that is too long makes the form malformed. The form is never
empty, and different names have different forms. -/
theorem decoders_undo_toCbor_iff (names : ArtifactNames) (fits : Fits names.toCbor) :
    (cborDecoder.certificate names.toCbor = .ok names ↔
      ∀ uri ∈ names.uris, (Text.utf8 uri.text).length ≤ 4096 ∧ Uri.parse? uri.text = some uri) ∧
    (cborDecoder.request names.toCbor = .ok names ↔
      ∀ uri ∈ names.uris, (Text.utf8 uri.text).length ≤ 4096 ∧ Uri.parse? uri.text = some uri) ∧
    ((∃ uri ∈ names.uris, 4096 < (Text.utf8 uri.text).length) →
      ∃ reason, cborDecoder.certificate names.toCbor = .error (.malformed reason) ∧
        cborDecoder.request names.toCbor = .error (.malformed reason)) ∧
    names.toCbor ≠ [] ∧
    ∀ other : ArtifactNames, Fits other.toCbor →
      (∀ uri ∈ names.uris ++ other.uris, Uri.parse? uri.text = some uri) →
      names.toCbor = other.toCbor → names = other := by
  refine ⟨ofCbor_toCbor_eq_ok_iff fits, ofCbor_toCbor_eq_ok_iff fits, ?_, toCbor_ne_nil names, ?_⟩
  · rintro ⟨uri, member, long⟩
    obtain ⟨reason, failed⟩ := ofCbor_toCbor_of_long fits member long
    exact ⟨reason, failed, failed⟩
  · intro other fits' back same
    exact toCbor_inj fits fits' back same

end Decoding

/-- Texts outside ASCII and empty ones, an address in both versions, and a URI. -/
def variedNames : ArtifactNames :=
  { subject := { commonName := "bücher.example", organization := ["acme", ""] }
    dnsNames := ["a.example", "b.example"]
    ipAddresses := [.v4 ⟨10, 0, 0, 1⟩, .v6 (.ofV4 ⟨10, 0, 0, 1⟩)]
    uris := [⟨"spiffe".toList, some ⟨none, .name "td".toList, none⟩, .segments ["web".toList], none,
      none⟩] }

theorem variedNames_decoded :
    letI := Uri.Idna.sample
    Fits variedNames.toCbor ∧ cborDecoder.certificate variedNames.toCbor = .ok variedNames ∧
      cborDecoder.request variedNames.toCbor = .ok variedNames := by
  let := Uri.Idna.sample
  have fits : Fits variedNames.toCbor := by
    rw [Fits]
    decide +kernel
  have readable : ∀ uri ∈ variedNames.uris,
      (Text.utf8 uri.text).length ≤ 4096 ∧ Uri.parse? uri.text = some uri := by
    decide +kernel
  obtain ⟨certificate, request, _⟩ := decoders_undo_toCbor_iff variedNames fits
  exact ⟨fits, certificate.mpr readable, request.mpr readable⟩

/-- Names whose only URI is some number of letters under a scheme. -/
def repeated (n : Nat) : ArtifactNames :=
  { uris := [.urn (List.replicate n 'a')] }

theorem plain_replicate (n : Nat) : ∀ c ∈ List.replicate n 'a', c.isAlphanum = true := by
  intro c member
  rw [List.eq_of_mem_replicate member]
  rfl

theorem length_utf8_text_urn (n : Nat) :
    (Text.utf8 (Uri.urn (List.replicate n 'a')).text).length = 4 + n := by
  have scheme : ("urn:".toList.flatMap String.utf8EncodeChar).length = 4 := by decide
  have letter : (String.utf8EncodeChar 'a').length = 1 := by decide
  rw [Uri.text, Uri.chars_urn (plain_replicate n), Text.utf8_ofList, List.flatMap_append,
    List.length_append, scheme, List.length_flatMap, List.map_replicate, letter, List.sum_replicate_nat,
    Nat.mul_one]

theorem fits_repeated {n : Nat} (few : n < 2 ^ 32) : Fits (repeated n).toCbor := by
  -- All that stands before the URIs is fixed, so its length is computed.
  let front := [("subject", ({} : DistinguishedName).toCbor), ("dns_names", ofList ofText []),
    ("ip_addresses", ofList Address.toCbor [])]
  have before : (ofFields front).length < 200 := by decide +kernel
  have name : (ofText "uris").length = 5 := by decide
  have count := Cbor.length_headBytes_le 4 1
  have text := Cbor.length_headBytes_le 3 (4 + n)
  have uris : (ofList Uri.toCbor (repeated n).uris).length ≤ 9 + (9 + (4 + n)) := by
    simp only [ofList, repeated, List.flatMap_cons, List.flatMap_nil, List.append_nil, List.length_append,
      Uri.toCbor, ofText, List.length_singleton, length_utf8_text_urn]
    omega
  have whole : (repeated n).toCbor = ofFields (front ++ [("uris", ofList Uri.toCbor (repeated n).uris)]) :=
    rfl
  have longer := Cbor.length_ofFields_concat_le front "uris" (ofList Uri.toCbor (repeated n).uris)
  rw [Fits, whole]
  omega

theorem repeated_not_decoded [Uri.Idna] {n : Nat} (many : 4092 < n) (few : n < 2 ^ 32) :
    ∃ reason, cborDecoder.certificate (repeated n).toCbor = .error (.malformed reason) := by
  refine ofCbor_toCbor_of_long (fits_repeated few) (List.mem_singleton.mpr rfl) ?_
  rw [length_utf8_text_urn]
  omega

/-- A URI of 4097 bytes is written but not read, though its text is a URI. -/
theorem long_uri_not_decoded :
    letI := Uri.Idna.sample
    (∀ uri ∈ (repeated 4093).uris, Uri.parse? uri.text = some uri) ∧
      ∃ reason, cborDecoder.certificate (repeated 4093).toCbor = .error (.malformed reason) := by
  let := Uri.Idna.sample
  refine ⟨?_, repeated_not_decoded (by decide) (by decide)⟩
  intro uri member
  rw [List.mem_singleton.mp member]
  exact Uri.parse?_text_urn (plain_replicate 4093)

end ArtifactNames

end CertLifecycle
