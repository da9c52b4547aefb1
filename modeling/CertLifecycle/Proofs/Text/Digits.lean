import CertLifecycle.Text.Digits
import Mathlib.Algebra.Group.Nat.Defs

/-!
The texts that numbers are written as: how long they are, what they start with, and which characters
they cannot hold.
-/

namespace CertLifecycle.Text

theorem length_natChars_le_iff {base n k : Nat} (two : 1 < base) (positive : 0 < k) :
    (natChars base n).length ≤ k ↔ n < base ^ k :=
  Nat.length_toDigits_le_iff two positive

/-- Only the text of zero starts with a zero. -/
theorem head?_natChars_ne_zero {base n : Nat} (two : 1 < base) (positive : 0 < n) :
    (natChars base n).head? ≠ some '0' := by
  induction n using Nat.strongRecOn with
  | ind n ih =>
    rw [natChars, Nat.toDigits_eq_if two]
    by_cases small : n < base
    · rw [if_pos small, List.head?_cons, ne_eq, Option.some.injEq, Nat.digitChar_eq_zero]
      omega
    -- The text of the quotient comes first, and the quotient is not zero either.
    · have quotient : 0 < n / base := Nat.div_pos (Nat.le_of_not_lt small) (by omega)
      have front := ih (n / base) (Nat.div_lt_self positive two) quotient
      obtain ⟨c, rest, shape⟩ := List.exists_cons_of_ne_nil (natChars_ne_nil base (n / base))
      rw [if_neg small]
      rw [natChars] at front shape
      rw [shape] at front ⊢
      exact front

/-- What reads as a number holds digits only. -/
theorem digit?_isSome_of_continueNat? {base start value : Nat} {cs : List Char}
    (reads : continueNat? base start cs = some value) {c : Char} (member : c ∈ cs) :
    (digit? base c).isSome := by
  induction cs generalizing start with
  | nil => simp at member
  | cons first rest ih =>
    rw [continueNat?] at reads
    obtain ⟨d, digit, later⟩ := Option.bind_eq_some_iff.mp reads
    rcases List.mem_cons.mp member with rfl | tail
    · rw [digit, Option.isSome_some]
    · exact ih later tail

theorem digit?_isSome_of_mem_natChars {base n : Nat} (two : 1 < base) (hex : base ≤ 16) {c : Char}
    (member : c ∈ natChars base n) : (digit? base c).isSome :=
  digit?_isSome_of_continueNat? (continueNat?_natChars two hex n) member

theorem isDigit_of_mem_natChars {n : Nat} {c : Char} (member : c ∈ natChars 10 n) :
    c.isDigit = true :=
  Nat.isDigit_of_mem_toDigits (by decide) (by decide) member

theorem not_mem_natChars {base : Nat} (two : 1 < base) (hex : base ≤ 16) {c : Char}
    (other : digit? base c = none) (n : Nat) : c ∉ natChars base n := by
  intro member
  have digit := digit?_isSome_of_mem_natChars two hex member
  rw [other] at digit
  exact absurd digit (by simp)

theorem decimal_inj {n m : Nat} : decimal n = decimal m ↔ n = m := by
  constructor
  · intro same
    have chars : natChars 10 n = natChars 10 m := String.ofList_injective same
    have read : nat? 10 (natChars 10 n) = some n := nat?_natChars (by decide) (by decide) n
    have read' : nat? 10 (natChars 10 m) = some m := nat?_natChars (by decide) (by decide) m
    rw [chars, read', Option.some.injEq] at read
    exact read.symm
  · rintro rfl
    rfl

end CertLifecycle.Text
