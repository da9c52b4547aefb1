/-!
Lower case of the letters of ASCII. Every other character is its own lower case, and so is a letter that is
in lower case already. Main result: `toLower_toLower`.
-/

namespace CertLifecycle.Text

theorem toLower_of_code {c : Char} (outside : c.toNat < 0x41 ∨ 0x5a < c.toNat) : c.toLower = c := by
  refine dif_neg fun upper => ?_
  have low : 0x41 ≤ c.toNat := UInt32.le_iff_toNat_le.mp upper.1
  have high : c.toNat ≤ 0x5a := UInt32.le_iff_toNat_le.mp upper.2
  omega

theorem toLower_of_isDigit {c : Char} (digit : c.isDigit = true) : c.toLower = c := by
  rw [Char.isDigit, Bool.and_eq_true, decide_eq_true_eq, decide_eq_true_eq] at digit
  have high : c.toNat ≤ 0x39 := UInt32.le_iff_toNat_le.mp digit.2
  exact toLower_of_code (.inl (by omega))

theorem toLower_toLower (c : Char) : c.toLower.toLower = c.toLower := by
  by_cases early : c.toNat < 0x5b
  · -- The letters in upper case, and what comes before them, are few enough to look at each.
    have each : ∀ n < 0x5b, (Char.ofNat n).toLower.toLower = (Char.ofNat n).toLower := by decide
    have here := each c.toNat early
    rwa [Char.ofNat_toNat] at here
  · have kept := toLower_of_code (.inr (by omega : 0x5a < c.toNat))
    rw [kept, kept]

theorem isAlpha_toLower {c : Char} (letter : c.isAlpha = true) : c.toLower.isAlpha = true := by
  by_cases early : c.toNat < 0x5b
  · have each : ∀ n < 0x5b, (Char.ofNat n).isAlpha = true → (Char.ofNat n).toLower.isAlpha = true := by
      decide
    have here := each c.toNat early
    rw [Char.ofNat_toNat] at here
    exact here letter
  · rwa [toLower_of_code (.inr (by omega : 0x5a < c.toNat))]

end CertLifecycle.Text
