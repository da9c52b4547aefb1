import CertLifecycle.Uri.Encoding
import Mathlib.Data.List.Basic

/-!
What stands in an escaped part, and that nothing in it is escaped again. Main results: `mem_escape` and
`escape_of_kept`.
-/

namespace CertLifecycle.Uri

theorem code_of_isAlphanum {c : Char} (letter : c.isAlphanum = true) :
    0x20 < c.toNat ∧ c.toNat < 0x7f := by
  delta Char.isAlphanum Char.isAlpha Char.isUpper Char.isLower Char.isDigit at letter
  simp only [Bool.or_eq_true, Bool.and_eq_true, decide_eq_true_eq, UInt32.le_iff_toNat_le, ge_iff_le]
    at letter
  change ((65 ≤ c.toNat ∧ c.toNat ≤ 90) ∨ (97 ≤ c.toNat ∧ c.toNat ≤ 122)) ∨
    (48 ≤ c.toNat ∧ c.toNat ≤ 57) at letter
  omega

/-- What an escaped character is written with. -/
def escapeMarks : List Char :=
  ['%', '0', '1', '2', '3', '4', '5', '6', '7', '8', '9', 'A', 'B', 'C', 'D', 'E', 'F']

theorem mem_escapeMarks_of_escapedByte {byte : UInt8} {c : Char} (member : c ∈ escapedByte byte) :
    c ∈ escapeMarks := by
  have digit : ∀ n < 16, n.digitChar.toUpper ∈ escapeMarks := by decide
  have bound := byte.toNat_lt
  rcases List.mem_cons.mp member with rfl | digits
  · decide
  rcases List.mem_cons.mp digits with rfl | low
  · exact digit _ (by omega)
  · rw [List.mem_singleton.mp low]
    exact digit _ (by omega)

/-- Only what needs no escape, and the marks of the escapes, stand in an escaped part. -/
theorem mem_escape {escapes : Char → Bool} {cs : List Char} {c : Char} (member : c ∈ escape escapes cs) :
    (c ∈ cs ∧ escapes c = false) ∨ c ∈ escapeMarks := by
  obtain ⟨origin, known, inside⟩ := List.mem_flatMap.mp member
  rw [escapeChar] at inside
  split at inside
  next =>
    obtain ⟨byte, _, mark⟩ := List.mem_flatMap.mp inside
    exact .inr (mem_escapeMarks_of_escapedByte mark)
  next kept =>
    rw [List.mem_singleton.mp inside]
    exact .inl ⟨known, by simpa using kept⟩

theorem not_escapes_of_mem_escape {escapes : Char → Bool} {cs : List Char} {c : Char}
    (marks : escapeMarks.all (!escapes ·) = true) (member : c ∈ escape escapes cs) :
    escapes c = false := by
  rcases mem_escape member with ⟨_, kept⟩ | mark
  · exact kept
  · simpa using List.all_eq_true.mp marks c mark

theorem escape_of_kept {escapes : Char → Bool} {cs : List Char}
    (kept : ∀ c ∈ cs, escapes c = false) : escape escapes cs = cs := by
  have each : ∀ c ∈ cs, escapeChar escapes c = [c] := by
    intro c member
    rw [escapeChar, kept c member]
    rfl
  calc escape escapes cs = cs.flatMap fun c => [c] := List.flatMap_congr each
    _ = cs := by simp

theorem unescape_of_no_mark {cs : List Char} (clean : '%' ∉ cs) :
    unescape cs = cs.flatMap String.utf8EncodeChar := by
  induction cs with
  | nil => rfl
  | cons c rest ih =>
    rw [List.mem_cons, not_or] at clean
    rw [List.flatMap_cons, ← ih clean.2, unescape]
    rintro _ _ _ rfl
    exact absurd rfl clean.1

end CertLifecycle.Uri
