import CertLifecycle.Proofs.Reconcile.Key
import CertLifecycle.Proofs.Store.Filtering
import CertLifecycle.Reconcile.Correlator
import Mathlib.Tactic.MkIffOfInductiveProp

/-!
Which certificates a changed secret concerns, whatever the store holds. Main result:
`keys_stay_in_scope_iff`, the certificates put into the queue lie in the namespace of the secret except
where the secret has none and a certificate of some namespace fits it.
-/

namespace CertLifecycle

namespace Logged

variable {α β : Type}

@[simp]
theorem result_pure (value : α) : (pure value : Logged α).result = value := rfl

@[simp]
theorem result_bind (first : Logged α) (next : α → Logged β) :
    (first >>= next).result = (next first.result).result := rfl

end Logged

namespace SecretRole

/-- The field of a certificate that a role stands for is set to the name of a secret. -/
inductive Names (certificate : Certificate) (name : String) : SecretRole → Prop where
  | issued : certificate.spec.secretName = name → Names certificate name .issued
  | nextKey : certificate.status.nextSecretName = some name → Names certificate name .nextKey

theorem test_iff {role : SecretRole} {name : String} {certificate : Certificate} :
    role.test name certificate = true ↔ role.Names certificate name := by
  cases role with
  | issued =>
    rw [test, Certificate.storesIn, beq_iff_eq]
    constructor
    · exact .issued
    · rintro ⟨equal⟩
      assumption
  | nextKey =>
    rw [test, Certificate.nextKeyIn, beq_iff_eq]
    constructor
    · exact .nextKey
    · rintro ⟨equal⟩
      assumption

end SecretRole

namespace Correlator

/-- A certificate with a name that is selected and names the secret in the role that is watched. -/
@[mk_iff]
structure Fits (correlator : Correlator) (secret : Secret) (certificate : Certificate) : Prop where
  selected : correlator.selector.selects certificate.metadata.labels = true
  names : correlator.role.Names certificate secret.metadata.name
  named : certificate.metadata.name ≠ ""

/-- A certificate that fits a secret, in a namespace that is searched for it. -/
@[mk_iff]
structure Concerns (correlator : Correlator) (secret : Secret) (certificate : Certificate) : Prop where
  searched : secret.metadata.scope = "" ∨ certificate.metadata.scope = secret.metadata.scope
  fits : correlator.Fits secret certificate

instance (role : SecretRole) (certificate : Certificate) (name : String) :
    Decidable (role.Names certificate name) :=
  decidable_of_iff _ SecretRole.test_iff

instance (correlator : Correlator) (secret : Secret) (certificate : Certificate) :
    Decidable (correlator.Fits secret certificate) :=
  decidable_of_iff' _ (fits_iff correlator secret certificate)

instance (correlator : Correlator) (secret : Secret) (certificate : Certificate) :
    Decidable (correlator.Concerns secret certificate) :=
  decidable_of_iff' _ (concerns_iff correlator secret certificate)

/-- The certificates that a secret concerns, in the order of the store. -/
def concerned (correlator : Correlator) (store : Store Certificate) (secret : Secret) :
    List Certificate :=
  store.objects.filter fun certificate => correlator.Concerns secret certificate

/-- The certificates put into the queue because of a secret: none while the store is out of service. -/
def requeued (correlator : Correlator) (store : Store Certificate) (secret : Secret) :
    List Certificate :=
  match store.outage with
  | none => correlator.concerned store secret
  | some _ => []

/-- The keys of certificates, one for each in order. -/
def KeysOf (certificates : List Certificate) (keys : List Key) : Prop :=
  List.Forall₂ (fun certificate key => Key.ofObject certificate = .ok key) certificates keys

/-- A certificate without a name is passed over, and the others keep their keys. -/
theorem keysOf_result (certificates : List Certificate) :
    KeysOf (certificates.filter fun certificate => certificate.metadata.name ≠ "")
      (keysOf certificates).result := by
  induction certificates with
  | nil => exact .nil
  | cons first rest ih =>
    by_cases named : first.metadata.name = ""
    · have missing : Key.ofObject first = .error (.missingName "Certificate" first.metadata.scope) := by
        simp [Key.ofObject, Key.make, Resource.metaOf, Resource.kind, named]
      rw [keysOf, missing, List.filter_cons_of_neg (by simpa using named)]
      exact ih
    · have found : Key.ofObject first = .ok ⟨Key.textOf (Resource.placeOf first)⟩ :=
        Key.ofObject_of_named named
      rw [keysOf, found, List.filter_cons_of_pos (by simpa using named)]
      exact .cons found ih

theorem enqueue_result (secret : String) (queue : Queue) (keys : List Key) :
    (enqueue secret queue keys).result = queue.addAll keys := by
  induction keys generalizing queue with
  | nil => rfl
  | cons key rest ih => exact ih (queue.add key)

/-- The listing, the test and the missing names together leave the certificates that are concerned. -/
theorem filter_listed (correlator : Correlator) (store : Store Certificate) (secret : Secret) :
    ((((store.objects.filter (Resource.liesIn secret.metadata.scope)).filter fun certificate =>
      correlator.selector.selects certificate.metadata.labels).filter
        (correlator.role.test secret.metadata.name)).filter fun certificate =>
          certificate.metadata.name ≠ "") = correlator.concerned store secret := by
  simp only [List.filter_filter]
  -- The four filters are one, and its condition is taken apart into the same four.
  refine List.filter_congr fun certificate _ => ?_
  rw [Bool.eq_iff_iff]
  simp only [Bool.and_eq_true, decide_eq_true_eq, SecretRole.test_iff, concerns_iff, fits_iff,
    Resource.liesIn, Bool.or_eq_true, String.isEmpty_iff, beq_iff_eq, Resource.metaOf]
  tauto

theorem owners_in_service (correlator : Correlator) {store : Store Certificate} (secret : Secret)
    (service : store.outage = none) :
    ∃ keys, (correlator.owners store.lister secret).result = .ok keys ∧
      KeysOf (correlator.concerned store secret) keys := by
  have cut := keysOf_result (((store.objects.filter (Resource.liesIn secret.metadata.scope)).filter
    fun certificate => correlator.selector.selects certificate.metadata.labels).filter
      (correlator.role.test secret.metadata.name))
  rw [filter_listed] at cut
  refine ⟨_, ?_, cut⟩
  have listed : store.lister.list secret.metadata.scope correlator.selector = _ :=
    Store.list_in_service service secret.metadata.scope correlator.selector
  rw [owners, Logged.result_bind, Lister.matching_of_ok listed]
  simp [Predicate.evaluate, Resource.metaOf]

theorem owners_in_outage (correlator : Correlator) {store : Store Certificate} {reason : String}
    (secret : Secret) (outage : store.outage = some reason) :
    (correlator.owners store.lister secret).result = .error (.unavailable reason) := by
  have refused : store.lister.list secret.metadata.scope correlator.selector = _ :=
    Store.list_in_outage outage secret.metadata.scope correlator.selector
  rw [owners, Logged.result_bind, Lister.matching_of_error refused]
  rfl

/-- A change of a secret adds the keys that were found, all of them, and nothing if the listing failed. -/
theorem notify_secret (correlator : Correlator) (lister : Lister Certificate) (secret : Secret)
    (queue : Queue) :
    (correlator.notify lister (.secret secret) queue).result =
      match (correlator.owners lister secret).result with
      | .error _ => ([], queue)
      | .ok keys => (keys, queue.addAll keys) := by
  rw [notify, Logged.result_bind]
  cases (correlator.owners lister secret).result with
  | error error => rfl
  | ok keys => rw [Logged.result_bind, Logged.result_pure, enqueue_result]

/-- The keys found and put into the queue are those of certificates of the namespace of the secret, except
if the secret has none, the store is in service and a certificate of some namespace fits the secret. -/
theorem keys_stay_in_scope_iff (correlator : Correlator) (store : Store Certificate)
    (secret : Secret) :
    ∃ keys, KeysOf (correlator.requeued store secret) keys ∧
      (correlator.owners store.lister secret).result =
        (match store.outage with
        | none => .ok keys
        | some reason => .error (.unavailable reason)) ∧
      (∀ queue, (correlator.notify store.lister (.secret secret) queue).result =
        (keys, queue.addAll keys)) ∧
      ((∀ certificate ∈ correlator.requeued store secret,
          certificate.metadata.scope = secret.metadata.scope) ↔
        store.outage ≠ none ∨ secret.metadata.scope ≠ "" ∨
          ∀ certificate ∈ store.objects, correlator.Fits secret certificate →
            certificate.metadata.scope = "") := by
  unfold requeued
  cases state : store.outage with
  | some reason =>
    have refused := owners_in_outage correlator secret state
    refine ⟨[], .nil, refused, fun queue => ?_, ?_⟩
    · rw [notify_secret, refused]
      rfl
    · simp
  | none =>
    obtain ⟨keys, found, cut⟩ := owners_in_service correlator secret state
    refine ⟨keys, cut, found, fun queue => ?_, ?_⟩
    · rw [notify_secret, found]
    -- Only the search through every namespace can find a certificate of another one.
    · simp only [concerned, List.mem_filter, decide_eq_true_eq, concerns_iff, and_imp, ne_eq,
        not_true_eq_false, false_or]
      by_cases cluster : secret.metadata.scope = ""
      · simp only [cluster, true_or, not_true_eq_false, false_or, forall_const]
      · refine iff_of_true (fun certificate _ searched _ => ?_) (.inl cluster)
        exact searched.resolve_left cluster

/-- A secret without a namespace brings a certificate of the default namespace into the queue. -/
theorem secret_without_scope_leaves_its_scope :
    (Store.ofList [Certificate.bare "default" "web" "shared"]).objects =
        [Certificate.bare "default" "web" "shared"] ∧
      ((⟨.everything, .issued⟩ : Correlator).owners
        (Store.ofList [Certificate.bare "default" "web" "shared"]).lister
          ⟨.named "" "shared", ∅⟩).result = .ok [⟨"default/web"⟩] ∧
      ((⟨.everything, .issued⟩ : Correlator).notify
        (Store.ofList [Certificate.bare "default" "web" "shared"]).lister
          (.secret ⟨.named "" "shared", ∅⟩) .empty).result.1 = [⟨"default/web"⟩] ∧
      (Certificate.bare "default" "web" "shared").metadata.scope ≠ "" := by
  refine ⟨by decide, by decide, by decide, by decide⟩

end Correlator

end CertLifecycle
