import CertLifecycle.Proofs.Text.Case
import CertLifecycle.Uri.Domain

/-!
A domain that was brought into ASCII is in ASCII for good. Main result: `domainToAscii?_again`. An operation
that a table gives, and so a lawful one, is there to run what is defined for all of them.
-/

namespace CertLifecycle.Uri

section Domain

variable [Idna] {domain ascii : List Char}

theorem domainToAscii?_of_plain (plain : isPlainDomain domain = true)
    (lower : ∀ c ∈ domain, c.toLower = c) : domainToAscii? domain = some domain := by
  have kept : domain.map Char.toLower = domain := (List.map_congr_left lower).trans (List.map_id _)
  rw [domainToAscii?, kept]
  exact if_pos plain

/-- A result stays as it is when it is brought into ASCII once more. -/
theorem domainToAscii?_again [LawfulIdna] (found : domainToAscii? domain = some ascii) :
    domainToAscii? ascii = some ascii := by
  rw [domainToAscii?] at found
  split at found
  next plain =>
    -- The operation was not asked, and is not asked again: lower case is still plain.
    obtain rfl := Option.some.inj found
    refine domainToAscii?_of_plain plain fun c member => ?_
    obtain ⟨origin, _, rfl⟩ := List.mem_map.mp member
    exact Text.toLower_toLower origin
  next => exact LawfulIdna.again found

end Domain

/-- The operation as far as a table has it: every other domain is refused. -/
@[reducible]
def Idna.ofTable (table : List (String × String)) : Idna :=
  ⟨fun domain => (table.lookup (String.ofList domain)).map String.toList⟩

/-- The operation on one domain outside ASCII, and on the same domain in ASCII. A label that encodes nothing,
such as xn--a, has no row, so it is refused. -/
@[reducible]
def Idna.sample : Idna :=
  .ofTable [("exämple.com", "xn--exmple-cua.com"), ("xn--exmple-cua.com", "xn--exmple-cua.com")]

theorem lawfulIdna_ofTable {table : List (String × String)}
    (settled : letI := Idna.ofTable table
      ∀ row ∈ table, domainToAscii? row.2.toList = some row.2.toList) :
    letI := Idna.ofTable table
    LawfulIdna := by
  let := Idna.ofTable table
  refine ⟨fun {domain ascii} found => ?_⟩
  obtain ⟨text, listed, rfl⟩ := Option.map_eq_some_iff.mp found
  obtain ⟨_, _, rfl, _⟩ := List.lookup_eq_some_iff.mp listed
  exact settled (String.ofList domain, text) (by simp)

theorem lawfulIdna_sample :
    letI := Idna.sample
    LawfulIdna :=
  lawfulIdna_ofTable (by decide)

end CertLifecycle.Uri
