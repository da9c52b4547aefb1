import CertLifecycle.Proofs.Ip.Text

/-!
Normal texts of addresses. An address has one normal text, which is read as that address or as the IPv4
address it carries; a text that is no address is its own normal text, and never that of an address. Main
result: `normal_texts_faithful`.
-/

namespace CertLifecycle.Ip.Address

theorem canonicalText_canonical (ip : Address) : ip.canonical.canonicalText = ip.canonicalText := by
  rw [canonicalText, canonicalText, canonical_canonical]

theorem normalize_of_parse_none {s : String} (unread : parse? s = none) : normalize s = s := by
  rw [normalize, unread]
  rfl

theorem normalize_normalize (s : String) : normalize (normalize s) = normalize s := by
  cases reads : parse? s with
  | none => rw [normalize_of_parse_none reads, normalize_of_parse_none reads]
  | some ip =>
    rw [normalize_of_parse reads, normalize_of_parse (parse?_canonicalText ip), canonicalText_canonical]

/-- Two texts have one normal form if they are one text, or texts of one host. -/
theorem normalize_eq_normalize_iff {s t : String} :
    normalize s = normalize t ↔
      s = t ∨ ∃ first second, parse? s = some first ∧ parse? t = some second ∧ Same first second := by
  cases reads : parse? s with
  | some first =>
    rw [normalize_of_parse reads, canonicalText_eq_normalize_iff]
    constructor
    · rintro ⟨second, reads', same⟩
      exact .inr ⟨first, second, rfl, reads', same⟩
    · rintro (rfl | ⟨_, second, ⟨⟩, reads', same⟩)
      · exact ⟨first, reads, .refl first⟩
      · exact ⟨second, reads', same⟩
  | none =>
    rw [normalize_of_parse_none reads]
    cases reads' : parse? t with
    | none =>
      rw [normalize_of_parse_none reads']
      simp
    | some second =>
      -- The normal text of an address is read again, so it is not a text that is no address.
      rw [normalize_of_parse reads']
      refine iff_of_false ?_ ?_
      · rintro rfl
        rw [parse?_canonicalText] at reads
        cases reads
      · rintro (rfl | ⟨_, _, ⟨⟩, _⟩)
        rw [reads] at reads'
        cases reads'

/-- The canonical text of an address is read as the IPv4 address that it is or carries, and as the address
itself otherwise. So a normal text is normal, and the normal texts of two texts are equal only if these are
equal or write the same host. -/
theorem normal_texts_faithful :
    (∀ ip : V4, parse? (v4 ip).canonicalText = some (v4 ip)) ∧
    (∀ ip : V4, parse? (v6 (.ofV4 ip)).canonicalText = some (v4 ip)) ∧
    (∀ ip : V6, (∀ carried, ip ≠ .ofV4 carried) → parse? (v6 ip).canonicalText = some (v6 ip)) ∧
    (∀ s, normalize (normalize s) = normalize s) ∧
    ∀ s t, normalize s = normalize t ↔
      s = t ∨ ∃ first second, parse? s = some first ∧ parse? t = some second ∧ Same first second := by
  refine ⟨fun ip => parse?_canonicalText (v4 ip), fun ip => ?_, fun ip plain => ?_, normalize_normalize,
    fun s t => normalize_eq_normalize_iff⟩
  · rw [parse?_canonicalText, canonical_carrier]
  · have whole : ip.mapped? = none := by
      cases mapped : ip.mapped? with
      | none => rfl
      | some carried => exact absurd (V6.mapped?_eq_some_iff.mp mapped) (plain carried)
    rw [parse?_canonicalText, canonical_of_not_mapped whole]

/-- One bit apart from the form that carries an IPv4 address. -/
def nearCarrier : Address :=
  v6 ⟨[0, 0, 0, 0, 0, 0xfffe, 0x0a00, 1], rfl⟩

theorem nearCarrier_stays :
    parse? nearCarrier.canonicalText = some nearCarrier ∧
      normalize "::FFFF:10.0.0.1" = normalize "10.0.0.1" ∧
      normalize "::fffe:10.0.0.1" ≠ normalize "10.0.0.1" := by
  obtain ⟨_, _, whole, _, normal⟩ := normal_texts_faithful
  have near : parse? "::fffe:10.0.0.1" = some nearCarrier := by decide
  have dotted : parse? "10.0.0.1" = some (v4 ⟨10, 0, 0, 1⟩) := by decide
  refine ⟨whole _ fun carried equal => ?_, (normal _ _).mpr (.inr ?_), fun equal => ?_⟩
  · simp [V6.ofV4] at equal
  · exact ⟨v6 (.ofV4 ⟨10, 0, 0, 1⟩), v4 ⟨10, 0, 0, 1⟩, by decide, dotted, .carrier _⟩
  · rcases (normal _ _).mp equal with same | ⟨first, second, reads, reads', same⟩
    · exact absurd same (by decide)
    · rw [near, Option.some.injEq] at reads
      rw [dotted, Option.some.injEq] at reads'
      subst reads reads'
      exact absurd (canonical_eq_iff.mpr same) (by decide)

end CertLifecycle.Ip.Address
