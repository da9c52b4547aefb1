import CertLifecycle.Text.Bytes
import Mathlib.Algebra.Group.Nat.Defs
import Mathlib.Data.List.Lex
import Mathlib.Tactic.SplitIfs

/-!
The order of texts. Texts are compared character by character, and UTF-8 is made so that their bytes come
out in the same order: of two characters the later one has the longer encoding or, at equal length, the
greater bits in front. Main result: `compare_utf8`.
-/

namespace CertLifecycle.Text

section Orders

variable {α β : Type} [Ord α] [Ord β]

/-- Lists are compared in lexicographic order. -/
theorem compare_eq_lt_iff_lex [Std.LawfulEqOrd α] {xs ys : List α} :
    compare xs ys = .lt ↔ List.Lex (fun x y => compare x y = .lt) xs ys := by
  induction xs generalizing ys with
  | nil => cases ys <;> simp
  | cons x xs ih =>
    cases ys with
    | nil => simp
    | cons y ys =>
      rw [List.compare_cons_cons, Ordering.then_eq_lt, ih, List.cons_lex_cons_iff,
        Std.LawfulEqOrd.compare_eq_iff_eq]

/-- A map that keeps what is before what keeps the whole comparison. -/
theorem compare_map [Std.OrientedOrd α] [Std.OrientedOrd β] {f : α → β}
    (before : ∀ x y, compare x y = .lt ↔ compare (f x) (f y) = .lt) (x y : α) :
    compare (f x) (f y) = compare x y := by
  cases compared : compare x y with
  | lt => exact (before x y).mp compared
  | gt => exact Std.OrientedCmp.gt_iff_lt.mpr ((before y x).mp (Std.OrientedCmp.gt_iff_lt.mp compared))
  | eq =>
    -- The images are in neither order, for otherwise the originals would be.
    have swapped : compare y x = .eq := Std.OrientedCmp.eq_symm compared
    cases images : compare (f x) (f y) with
    | lt => simp [(before x y).mpr images] at compared
    | gt => simp [(before y x).mpr (Std.OrientedCmp.gt_iff_lt.mp images)] at swapped
    | eq => rfl

end Orders

theorem compare_toNat (c d : Char) : compare c.toNat d.toNat = compare c d := by
  refine compare_map (f := Char.toNat) (fun c d => ?_) c d
  change compareOfLessAndEq c d = .lt ↔ _
  rw [compareOfLessAndEq_eq_lt, Nat.compare_eq_lt]
  rfl

/-- Texts are compared character by character. -/
theorem compare_toList (s t : String) : compare s.toList t.toList = compare s t := by
  have before (c d : Char) : compare c d = .lt ↔ c < d := compareOfLessAndEq_eq_lt
  refine compare_map (f := String.toList) (fun s t => ?_) s t
  rw [compare_eq_lt_iff_lex]
  simp only [before]
  exact compareOfLessAndEq_eq_lt

section Numbers

theorem compare_add_right (m n k : Nat) : compare (m + k) (n + k) = compare m n :=
  compare_map (f := (· + k)) (fun m n => by simp [Nat.compare_eq_lt]) m n

/-- Numbers are compared by their quotients first and then by their remainders. -/
theorem compare_div_mod (divisor m n : Nat) :
    (compare (m / divisor) (n / divisor)).then (compare (m % divisor) (n % divisor)) = compare m n := by
  -- Quotients that differ decide about the numbers; equal ones leave it to the remainders.
  rcases Nat.lt_trichotomy (m / divisor) (n / divisor) with less | same | more
  · rw [Nat.compare_eq_lt.mpr less, Nat.compare_eq_lt.mpr (Nat.lt_of_div_lt_div less)]
    rfl
  · calc (compare (m / divisor) (n / divisor)).then (compare (m % divisor) (n % divisor))
      _ = compare (m % divisor) (n % divisor) := by rw [same, Std.ReflOrd.compare_self]; rfl
      _ = compare (m % divisor + divisor * (m / divisor)) (n % divisor + divisor * (n / divisor)) := by
        rw [same, compare_add_right]
      _ = compare m n := by rw [Nat.mod_add_div, Nat.mod_add_div]
  · rw [Nat.compare_eq_gt.mpr more, Nat.compare_eq_gt.mpr (Nat.lt_of_div_lt_div more)]
    rfl

theorem compare_byte {m n : Nat} (first : m < 256) (second : n < 256) :
    compare (UInt8.ofNat m) (UInt8.ofNat n) = compare m n := by
  rw [UInt8.compare_eq_toNat_compare_toNat, UInt8.toNat_ofNat_of_lt' first, UInt8.toNat_ofNat_of_lt' second]

end Numbers

/-- The bytes that follow the first one of a character. Each holds six bits. -/
def continuation : Nat → Nat → List UInt8
  | 0, _ => []
  | count + 1, code => UInt8.ofNat (code / 64 ^ count % 64 + 0x80) :: continuation count code

/-- How many bytes follow the first one of a character. -/
def following (code : Nat) : Nat :=
  if code ≤ 0x7f then 0 else if code ≤ 0x7ff then 1 else if code ≤ 0xffff then 2 else 3

/-- The bits in front of a first byte, which say how many others follow. -/
def mark : Nat → Nat
  | 0 => 0
  | 1 => 0xc0
  | 2 => 0xe0
  | _ => 0xf0

/-- The first byte of a character. -/
def lead (code : Nat) : Nat :=
  code / 64 ^ following code + mark (following code)

theorem toNat_lt (c : Char) : c.toNat < 0x110000 := by
  rcases c.valid with low | ⟨_, high⟩
  · exact Nat.lt_trans low (by decide)
  · exact high

theorem lead_lt (c : Char) : lead c.toNat < 256 := by
  have bound := toNat_lt c
  simp only [lead, following]
  split_ifs <;> simp only [mark] <;> omega

/-- Where more bytes follow, the first byte is greater, and so is the character. -/
theorem lead_lt_lead {m n : Nat} (fewer : following m < following n) : lead m < lead n ∧ m < n := by
  simp only [lead, following] at fewer ⊢
  split_ifs at fewer ⊢ <;> simp only [mark] <;> omega

theorem utf8EncodeChar_eq (c : Char) :
    String.utf8EncodeChar c = UInt8.ofNat (lead c.toNat) :: continuation (following c.toNat) c.toNat := by
  have bound := toNat_lt c
  have code : c.val.toNat = c.toNat := rfl
  rw [String.utf8EncodeChar, lead, following]
  simp only [code]
  -- The first byte has room for all bits in front, so it does not matter that they are cut to their width.
  split_ifs with one two three
  · simp [mark, continuation]
  · rw [Nat.mod_eq_of_lt (a := c.toNat / 64) (by omega)]
    simp [mark, continuation]
  · rw [Nat.mod_eq_of_lt (a := c.toNat / 4096) (by omega)]
    simp [mark, continuation]
  · rw [Nat.mod_eq_of_lt (a := c.toNat / 262144) (by omega)]
    simp [mark, continuation]

/-- The bytes that follow are compared like the bits that they hold. -/
theorem compare_continuation (count m n : Nat) (xs ys : List UInt8) :
    compare (continuation count m ++ xs) (continuation count n ++ ys) =
      (compare (m % 64 ^ count) (n % 64 ^ count)).then (compare xs ys) := by
  induction count with
  | zero => simp [continuation, Nat.mod_one]
  | succ count ih =>
    have bits (code : Nat) : code / 64 ^ count % 64 + 0x80 < 256 := by omega
    rw [continuation, continuation, List.cons_append, List.cons_append, List.compare_cons_cons,
      compare_byte (bits m) (bits n), compare_add_right, ih, ← Ordering.then_assoc]
    -- The six bits of the first byte are the quotient of what all of them hold.
    rw [← compare_div_mod (64 ^ count) (m % 64 ^ (count + 1)), Nat.pow_succ, Nat.mod_mul_right_div_self,
      Nat.mod_mul_right_div_self, Nat.mod_mul_right_mod, Nat.mod_mul_right_mod]

theorem compare_utf8EncodeChar_append (c d : Char) (xs ys : List UInt8) :
    compare (String.utf8EncodeChar c ++ xs) (String.utf8EncodeChar d ++ ys) =
      (compare c d).then (compare xs ys) := by
  rw [utf8EncodeChar_eq, utf8EncodeChar_eq, List.cons_append, List.cons_append, List.compare_cons_cons,
    compare_byte (lead_lt c) (lead_lt d), ← compare_toNat]
  -- If the lengths differ, the first bytes do and already decide.
  rcases Nat.lt_trichotomy (following c.toNat) (following d.toNat) with fewer | same | more
  · obtain ⟨first, less⟩ := lead_lt_lead fewer
    rw [Nat.compare_eq_lt.mpr first, Nat.compare_eq_lt.mpr less]
    rfl
  · -- The marks are the same, and first byte and rest are quotient and remainder of the code.
    rw [lead, lead, same, compare_add_right, compare_continuation, ← Ordering.then_assoc, compare_div_mod]
  · obtain ⟨first, greater⟩ := lead_lt_lead more
    rw [Nat.compare_eq_gt.mpr first, Nat.compare_eq_gt.mpr greater]
    rfl

/-- No character is encoded by a part of the encoding of another, so the first difference decides. -/
theorem compare_flatMap_utf8EncodeChar (cs ds : List Char) :
    compare (cs.flatMap String.utf8EncodeChar) (ds.flatMap String.utf8EncodeChar) = compare cs ds := by
  induction cs generalizing ds with
  | nil =>
    cases ds with
    | nil => rfl
    | cons d ds =>
      rw [List.flatMap_cons, utf8EncodeChar_eq]
      rfl
  | cons c cs ih =>
    cases ds with
    | nil =>
      rw [List.flatMap_cons, utf8EncodeChar_eq]
      rfl
    | cons d ds =>
      rw [List.flatMap_cons, List.flatMap_cons, compare_utf8EncodeChar_append, ih, List.compare_cons_cons]

/-- The bytes of texts are in the order of the texts. -/
theorem compare_utf8 (s t : String) : compare (utf8 s) (utf8 t) = compare s t := by
  have bytes (u : String) : utf8 u = u.toList.flatMap String.utf8EncodeChar := by
    rw [← utf8_ofList, String.ofList_toList]
  rw [bytes, bytes, compare_flatMap_utf8EncodeChar, compare_toList]

end CertLifecycle.Text
