/-!
Numbers as texts of digits. Reading takes digits only: no sign, no separator, at least one digit.
-/

namespace CertLifecycle.Text

/-- The value of a digit in a base up to sixteen; letters count in either case. -/
def digit? (base : Nat) (c : Char) : Option Nat :=
  let value :=
    if '0' ≤ c ∧ c ≤ '9' then some (c.toNat - '0'.toNat)
    else if 'a' ≤ c ∧ c ≤ 'f' then some (c.toNat - 'a'.toNat + 10)
    else if 'A' ≤ c ∧ c ≤ 'F' then some (c.toNat - 'A'.toNat + 10)
    else none
  value.filter (· < base)

/-- Continues a number with more digits. -/
def continueNat? (base : Nat) : Nat → List Char → Option Nat
  | value, [] => some value
  | value, c :: rest => do continueNat? base (value * base + (← digit? base c)) rest

/-- The number that a nonempty text of digits writes; leading zeros are allowed. -/
def nat? (base : Nat) (cs : List Char) : Option Nat :=
  if cs.isEmpty then none else continueNat? base 0 cs

/-- The digits of a number, without leading zeros and in lower case. -/
def natChars (base n : Nat) : List Char :=
  Nat.toDigits base n

/-- A number in decimal. -/
def decimal (n : Nat) : String :=
  String.ofList (natChars 10 n)

/-- Reading goes on digit by digit. -/
theorem continueNat?_append (base value : Nat) (front back : List Char) :
    continueNat? base value (front ++ back)
      = (continueNat? base value front).bind (continueNat? base · back) := by
  induction front generalizing value with
  | nil => rfl
  | cons c rest ih =>
    simp only [List.cons_append, continueNat?]
    cases digit? base c <;> simp [ih]

/-- A digit reads as its value. -/
theorem digit?_digitChar {base d : Nat} (small : d < base) (hex : base ≤ 16) :
    digit? base d.digitChar = some d := by
  have bound : d < 16 := Nat.lt_of_lt_of_le small hex
  have plain : ∀ e < 16, digit? 16 e.digitChar = some e := by decide
  have value := plain d bound
  simp only [digit?, Option.filter_eq_some_iff] at value ⊢
  exact ⟨value.1, by simpa using small⟩

/-- What is written reads back. -/
theorem continueNat?_natChars {base : Nat} (two : 1 < base) (hex : base ≤ 16) (n : Nat) :
    continueNat? base 0 (natChars base n) = some n := by
  induction n using Nat.strongRecOn with
  | ind n ih =>
    by_cases small : n < base
    · rw [natChars, Nat.toDigits_of_lt_base small]
      simp [continueNat?, digit?_digitChar small hex]
    -- The last digit follows the digits of the quotient, which read back by induction.
    · have positive : 0 < n / base := Nat.div_pos (Nat.le_of_not_lt small) (by omega)
      have smaller : n / base < n := Nat.div_lt_self (by omega) two
      have last : n % base < base := Nat.mod_lt _ (by omega)
      have split := Nat.toDigits_append_toDigits two positive last
      rw [Nat.div_add_mod] at split
      rw [natChars, ← split, continueNat?_append]
      have front : continueNat? base 0 (Nat.toDigits base (n / base)) = some (n / base) :=
        ih _ smaller
      rw [front, Nat.toDigits_of_lt_base last]
      simp [continueNat?, digit?_digitChar last hex, Nat.div_add_mod']

theorem natChars_ne_nil (base n : Nat) : natChars base n ≠ [] := by
  simp [natChars, Nat.toDigits_ne_nil]

/-- Writing a number and reading it gives it back. -/
theorem nat?_natChars {base : Nat} (two : 1 < base) (hex : base ≤ 16) (n : Nat) :
    nat? base (natChars base n) = some n := by
  have digits := natChars_ne_nil base n
  rw [nat?, if_neg (by simpa using digits)]
  exact continueNat?_natChars two hex n

end CertLifecycle.Text
