import CertLifecycle.Cbor.Head
import Mathlib.Data.Nat.ModEq
import Mathlib.Tactic.IntervalCases
import Mathlib.Tactic.Ring

/-!
Heads of CBOR items are read back. Main results: `ofBigEndian_bigEndian`, a number is read from its bytes,
and `head?_headBytes`, the shortest head of a number below 2 to the power of 64 is read as that number,
whichever of the five widths it has.
-/

namespace CertLifecycle.Cbor

theorem bigEndian_succ (width n : Nat) :
    bigEndian (width + 1) n = UInt8.ofNat (n / 256 ^ width) :: bigEndian width n := rfl

theorem length_bigEndian (width n : Nat) : (bigEndian width n).length = width := by
  induction width with
  | zero => rfl
  | succ width ih => rw [bigEndian_succ, List.length_cons, ih]

theorem ofBigEndian_cons (byte : UInt8) (bytes : List UInt8) :
    ofBigEndian (byte :: bytes) = byte.toNat * 256 ^ bytes.length + ofBigEndian bytes := by
  -- The fold starts from any value, which is shifted past all the bytes that follow.
  have shifted : ∀ value, bytes.foldl (fun value byte => value * 256 + byte.toNat) value =
      value * 256 ^ bytes.length + ofBigEndian bytes := by
    unfold ofBigEndian
    induction bytes with
    | nil => simp
    | cons next rest ih =>
      intro value
      rw [List.foldl_cons, List.foldl_cons, ih (value * 256 + next.toNat), ih (0 * 256 + next.toNat),
        List.length_cons, pow_succ]
      ring
  rw [ofBigEndian, List.foldl_cons, Nat.zero_mul, Nat.zero_add]
  exact shifted byte.toNat

theorem ofBigEndian_bigEndian (width n : Nat) : ofBigEndian (bigEndian width n) = n % 256 ^ width := by
  induction width with
  | zero =>
    rw [pow_zero, Nat.mod_one]
    rfl
  | succ width ih =>
    have digit : (UInt8.ofNat (n / 256 ^ width)).toNat = n / 256 ^ width % 256 := UInt8.toNat_ofNat'
    rw [bigEndian_succ, ofBigEndian_cons, length_bigEndian, ih, digit, pow_succ, Nat.mod_mul, Nat.add_comm,
      Nat.mul_comm]

theorem takeBytes?_append {count : Nat} {front : List UInt8} (length : front.length = count)
    (rest : List UInt8) : takeBytes? count (front ++ rest) = some (front, rest) := by
  subst length
  simp only [takeBytes?, List.take_left, List.drop_left, if_true]

theorem argument?_small {minor : Nat} (small : minor < 24) (bytes : List UInt8) :
    argument? minor bytes = some (some minor, bytes) := by
  unfold argument?
  split <;> first | rfl | omega

theorem argument?_wide {minor width : Nat} (known : (minor, width) ∈ [(24, 1), (25, 2), (26, 4), (27, 8)])
    {n : Nat} (fits : n < 256 ^ width) (rest : List UInt8) :
    argument? minor (bigEndian width n ++ rest) = some (some n, rest) := by
  have value : ofBigEndian (bigEndian width n) = n := by
    rw [ofBigEndian_bigEndian, Nat.mod_eq_of_lt fits]
  simp only [List.mem_cons, Prod.mk.injEq, List.not_mem_nil, or_false] at known
  rcases known with ⟨rfl, rfl⟩ | ⟨rfl, rfl⟩ | ⟨rfl, rfl⟩ | ⟨rfl, rfl⟩ <;>
    simp [argument?, takeBytes?_append (length_bigEndian _ n), value]

/-- The kinds of items below the last one do not depend on the width of the argument. -/
theorem Head.of?_eq {major : Nat} (small : major < 7) (minor : Nat) (argument : Option Nat) :
    Head.of? major minor argument = Head.of? major 0 argument := by
  interval_cases major <;> rfl

theorem head?_cons {major minor : Nat} (small : major < 7) (small' : minor < 32) {n : Nat}
    {bytes rest : List UInt8} (read : argument? minor bytes = some (some n, rest)) :
    head? (UInt8.ofNat (major * 32 + minor) :: bytes) =
      (Head.of? major 0 (some n)).map fun head => (head, rest) := by
  -- The first byte has the kind in its upper three bits, and the argument or its width in the lower five.
  have first : (UInt8.ofNat (major * 32 + minor)).toNat = major * 32 + minor :=
    UInt8.toNat_ofNat_of_lt' (by simp only [UInt8.size]; omega)
  have major' : (major * 32 + minor) / 32 = major := by omega
  have minor' : (major * 32 + minor) % 32 = minor := by omega
  simp only [head?, first, major', minor', read, Head.of?_eq small, bind, Option.bind]
  cases Head.of? major 0 (some n) <;> rfl

/-- The shortest head is read as the number it was made for. -/
theorem head?_headBytes {major n : Nat} (small : major < 7) (fits : n < 2 ^ 64) (rest : List UInt8) :
    head? (headBytes major n ++ rest) = (Head.of? major 0 (some n)).map fun head => (head, rest) := by
  have wide {minor width : Nat} (known : (minor, width) ∈ [(24, 1), (25, 2), (26, 4), (27, 8)])
      (fits : n < 256 ^ width) :
      head? (UInt8.ofNat (major * 32 + minor) :: (bigEndian width n ++ rest)) =
        (Head.of? major 0 (some n)).map fun head => (head, rest) := by
    refine head?_cons small ?_ (argument?_wide known fits rest)
    simp only [List.mem_cons, Prod.mk.injEq, List.not_mem_nil, or_false] at known
    omega
  simp only [headBytes]
  split
  next tiny => exact head?_cons small (by omega) (argument?_small tiny rest)
  next =>
    split
    next one => exact wide (by simp) one
    next =>
      split
      next two => exact wide (by simp) two
      next =>
        split
        next four => exact wide (by simp) four
        next => exact wide (by simp) (by simpa using fits)

end CertLifecycle.Cbor
