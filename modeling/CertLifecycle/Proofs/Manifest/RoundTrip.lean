import CertLifecycle.Config.Basic
import CertLifecycle.Manifest.Certificate
import CertLifecycle.Manifest.Names
import CertLifecycle.Manifest.Request
import CertLifecycle.Manifest.Secret
import CertLifecycle.Proofs.Ip.Text
import CertLifecycle.Proofs.Json.Fields

/-!
Manifests come back from their text. Each kind of data is followed from its fields to the records it stands
in; an optional field that is not set is left out, and read as not set. Main result: `manifests_survive`.
-/

namespace CertLifecycle

open Json

theorem OwnerReference.represents (owner : OwnerReference) :
    Represents ofJson? owner.toJson owner := by
  obtain ⟨_, _, _, _, controller⟩ := owner
  cases controller
  all_goals refine represents_record ?_ (by decide) ?_ ?_
  all_goals simp [optionalMember, fieldNames, (represents_ofString _).plain, (represents_bool _).plain,
    (represents_ofString _).reads, (represents_bool _).reads, (represents_bool _).filled]

theorem ObjectMeta.represents (m : ObjectMeta) : Represents ofJson? m.toJson m := by
  have dictionary := represents_dictionary represents_ofString
  have owners := represents_list OwnerReference.represents m.owners
  refine represents_record (.refl _) (by decide) ?_ ?_
  · simp [(represents_ofString _).plain, (dictionary _).plain, owners.plain]
  · simp [(represents_ofString _).reads, (dictionary _).reads, owners.reads]

theorem IssuerRef.represents (issuer : IssuerRef) : Represents ofJson? issuer.toJson issuer := by
  refine represents_record (.refl _) (by decide) ?_ ?_
  · simp [(represents_ofString _).plain]
  · simp [(represents_ofString _).reads]

theorem KeyUsage.represents (usage : KeyUsage) : Represents ofJson? usage.toJson usage :=
  represents_choice usage.ofText?_text

namespace Duration

theorem ofParts?_parts (duration : Duration) :
    ofParts? duration.secs.toNat duration.nanos = some duration := by
  obtain ⟨secs, nanos, small⟩ := duration
  -- The nanoseconds are less than a second, so nothing is carried over.
  have total : secs.toNat + nanos / 1000000000 = secs.toNat := by omega
  simp only [ofParts?, total, if_pos secs.toNat_lt_size, UInt64.ofNat_toNat, Nat.mod_eq_of_lt small]

theorem represents (duration : Duration) : Represents ofJson? duration.toJson duration := by
  have small : duration.nanos < UInt32.size := Nat.lt_trans duration.nanos_lt (by decide)
  have secs := represents_ofNat duration.secs.toNat_lt_size
  have nanos := represents_ofNat small
  refine ⟨plain_ofMembers ?_, Json.noConfusion, ?_⟩
  · simp [secs.plain, nanos.plain]
  · rw [ofJson?, toJson, closedFields?_ofMembers]
    · simp [secs.reads, nanos.reads, ofParts?_parts]
    · exact .refl _
    · decide

end Duration

theorem SubjectFields.represents (subject : SubjectFields) :
    Represents ofJson? subject.toJson subject := by
  refine represents_record (.refl _) (by decide) ?_ ?_
  · simp [(represents_ofString _).plain, (represents_ofStrings _).plain]
  · simp [(represents_ofString _).reads, (represents_ofStrings _).reads]

theorem CertificateSpec.represents (spec : CertificateSpec) :
    Represents ofJson? spec.toJson spec := by
  obtain ⟨_, _, _, _, subject, _, usages, duration, _, issuer⟩ := spec
  have usages := represents_list KeyUsage.represents usages
  have issuer := issuer.represents
  -- A subject whose fields are all empty is written, so it is not taken for one that is not set.
  cases subject <;> cases duration
  all_goals refine represents_record ?_ (by decide) ?_ ?_
  all_goals simp [optionalMember, fieldNames, (represents_ofString _).plain,
    (represents_ofStrings _).plain, (represents_bool _).plain, (SubjectFields.represents _).plain,
    (Duration.represents _).plain, usages.plain, issuer.plain, (represents_ofString _).reads,
    (represents_ofStrings _).reads, (represents_bool _).reads, (SubjectFields.represents _).reads,
    (SubjectFields.represents _).filled, (Duration.represents _).reads, (Duration.represents _).filled,
    usages.reads, issuer.reads]

theorem CertificateStatus.represents (status : CertificateStatus) :
    Represents ofJson? status.toJson status := by
  obtain ⟨next⟩ := status
  cases next
  all_goals refine represents_record ?_ (by decide) ?_ ?_
  all_goals simp [optionalMember, fieldNames, (represents_ofString _).plain,
    (represents_ofString _).reads, (represents_ofString _).filled]

theorem Certificate.represents (certificate : Certificate) :
    Represents ofJson? certificate.toJson certificate := by
  have metadata := certificate.metadata.represents
  have spec := certificate.spec.represents
  have status := certificate.status.represents
  refine represents_record (.refl _) (by decide) ?_ ?_
  · simp [metadata.plain, spec.plain, status.plain]
  · simp [metadata.reads, spec.reads, status.reads]

theorem RequestSpec.represents (spec : RequestSpec) : Represents ofJson? spec.toJson spec := by
  obtain ⟨_, _, usages, duration, issuer⟩ := spec
  have usages := represents_list KeyUsage.represents usages
  have issuer := issuer.represents
  cases duration
  all_goals refine represents_record ?_ (by decide) ?_ ?_
  all_goals simp [optionalMember, fieldNames, (represents_ofBytes _).plain, (represents_bool _).plain,
    (Duration.represents _).plain, usages.plain, issuer.plain, (represents_ofBytes _).reads,
    (represents_bool _).reads, (Duration.represents _).reads, (Duration.represents _).filled,
    usages.reads, issuer.reads]

theorem CertificateRequest.represents (request : CertificateRequest) :
    Represents ofJson? request.toJson request := by
  have metadata := request.metadata.represents
  have spec := request.spec.represents
  refine represents_record (.refl _) (by decide) ?_ ?_
  · simp [metadata.plain, spec.plain]
  · simp [metadata.reads, spec.reads]

theorem Secret.represents (secret : Secret) : Represents ofJson? secret.toJson secret := by
  have metadata := secret.metadata.represents
  have data := represents_dictionary represents_ofBytes secret.data
  refine represents_record (.refl _) (by decide) ?_ ?_
  · simp [metadata.plain, data.plain]
  · simp [metadata.reads, data.reads]

theorem DistinguishedName.represents (name : DistinguishedName) :
    Represents ofJson? name.toJson name := by
  refine represents_record (.refl _) (by decide) ?_ ?_
  · simp [(represents_ofString _).plain, (represents_ofStrings _).plain]
  · simp [(represents_ofString _).reads, (represents_ofStrings _).reads]

theorem Ip.Address.represents (ip : Address) : Represents ofJson? ip.toJson ip where
  plain := (represents_ofString ip.text).plain
  filled := (represents_ofString ip.text).filled
  reads := by
    rw [ofJson?, toJson, (represents_ofString ip.text).reads, Option.bind_eq_bind, Option.bind_some,
      parse?_text]

namespace ArtifactNames

variable [Uri.Idna]

theorem uris_reads (uris : List Uri) :
    Json.list? Uri.ofJson? (.array (uris.map Uri.toJson)) =
      uris.mapM fun uri => Uri.parse? uri.text := by
  have each : Uri.ofJson? ∘ Uri.toJson = fun uri => Uri.parse? uri.text := by
    funext uri
    rw [Function.comp_apply, Uri.ofJson?, Uri.toJson, (represents_ofString uri.text).reads,
      Option.bind_eq_bind, Option.bind_some]
  rw [Json.list?, List.mapM_map, each]

/-- Decoded names come back if every URI is what its own text reads as. -/
theorem parse?_text_iff (names : ArtifactNames) :
    (Json.parse? names.toJson.text).bind ofJson? = some names ↔
      ∀ uri ∈ names.uris, Uri.parse? uri.text = some uri := by
  have subject := names.subject.represents
  have dnsNames := represents_ofStrings names.dnsNames
  have ipAddresses := represents_list Ip.Address.represents names.ipAddresses
  have uris : (Json.array (names.uris.map Uri.toJson)).Plain := by
    have texts := (represents_ofStrings (names.uris.map Uri.text)).plain
    rwa [ofStrings, List.map_map] at texts
  have plain : names.toJson.Plain := by
    refine plain_ofMembers ?_
    simp [subject.plain, dnsNames.plain, ipAddresses.plain, uris]
  have reads : ofJson? names.toJson =
      (names.uris.mapM fun uri => Uri.parse? uri.text).bind fun uris => some { names with uris } := by
    rw [ofJson?, toJson, fields?_ofMembers]
    · simp [subject.reads, dnsNames.reads, ipAddresses.reads, uris_reads]
    · exact .refl _
    · decide
  rw [Json.parse?_text plain, Option.bind_some, reads, ← Collection.mapM_eq_self_iff]
  cases names.uris.mapM fun uri => Uri.parse? uri.text with
  | none => simp
  | some found =>
    cases names
    simp

end ArtifactNames

theorem SecretRole.represents (role : SecretRole) : Represents ofJson? role.toJson role :=
  represents_choice (by cases role <;> decide)

theorem LogConfig.represents (config : LogConfig) : Represents ofJson? config.toJson config := by
  refine represents_record (.refl _) (by decide) ?_ ?_
  · simp [(represents_ofString _).plain, (represents_bool _).plain]
  · simp [(represents_ofString _).reads, (represents_bool _).reads]

theorem CorrelatorConfig.represents (config : CorrelatorConfig) :
    Represents ofJson? config.toJson config := by
  have trigger := config.trigger.represents
  have logging := config.logging.represents
  refine represents_record (.refl _) (by decide) ?_ ?_
  · simp [(represents_ofString _).plain, trigger.plain, logging.plain]
  · simp [(represents_ofString _).reads, trigger.reads, logging.reads]

/-- Every manifest comes back from the compact text that it is written as. Decoded names come back exactly
if each of their URIs is what its own text reads as. -/
theorem manifests_survive [Uri.Idna] :
    (∀ certificate : Certificate,
      (Json.parse? certificate.toJson.text).bind Certificate.ofJson? = some certificate) ∧
    (∀ request : CertificateRequest,
      (Json.parse? request.toJson.text).bind CertificateRequest.ofJson? = some request) ∧
    (∀ secret : Secret, (Json.parse? secret.toJson.text).bind Secret.ofJson? = some secret) ∧
    (∀ metadata : ObjectMeta,
      (Json.parse? metadata.toJson.text).bind ObjectMeta.ofJson? = some metadata) ∧
    (∀ spec : CertificateSpec,
      (Json.parse? spec.toJson.text).bind CertificateSpec.ofJson? = some spec) ∧
    (∀ names : ArtifactNames,
      (Json.parse? names.toJson.text).bind ArtifactNames.ofJson? = some names ↔
        ∀ uri ∈ names.uris, Uri.parse? uri.text = some uri) ∧
    ∀ config : CorrelatorConfig, CorrelatorConfig.parse config.toJson.text = .ok config := by
  refine ⟨?_, ?_, ?_, ?_, ?_, ArtifactNames.parse?_text_iff, fun config => ?_⟩
  · exact fun certificate => certificate.represents.parse?_text_bind
  · exact fun request => request.represents.parse?_text_bind
  · exact fun secret => secret.represents.parse?_text_bind
  · exact fun metadata => metadata.represents.parse?_text_bind
  · exact fun spec => spec.represents.parse?_text_bind
  · rw [CorrelatorConfig.parse, config.represents.parse?_text_bind]

end CertLifecycle
