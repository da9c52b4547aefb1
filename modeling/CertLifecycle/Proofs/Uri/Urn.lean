import CertLifecycle.Proofs.Uri.Encoding
import CertLifecycle.Uri.Parser
import Mathlib.Data.List.DropRight

/-!
URIs whose path has no structure, after a scheme that is neither of the web nor of files. Main result:
`parse?_text_urn`, a name of letters and digits is kept as it stands, however long it is.
-/

namespace CertLifecycle.Uri

theorem trimControls_of_visible {cs : List Char} (visible : ∀ c ∈ cs, 0x20 < c.toNat) :
    trimControls cs = cs := by
  have front : cs.dropWhile (fun c => decide (c.toNat ≤ 0x20)) = cs := by
    cases cs with
    | nil => rfl
    | cons c rest =>
      have first := visible c List.mem_cons_self
      exact List.dropWhile_cons_of_neg (by simpa using first)
  have back : Text.dropTrailing (fun c => decide (c.toNat ≤ 0x20)) cs = cs := by
    refine List.rdropWhile_eq_self_iff.mpr ?_
    intro filled
    have last := visible _ (List.getLast_mem filled)
    simpa using last
  simp only [trimControls]
  rw [front, back]

theorem unbroken_of_visible {cs : List Char} (visible : ∀ c ∈ cs, 0x20 < c.toNat) :
    unbroken cs = cs := by
  refine List.filter_eq_self.mpr ?_
  intro c member
  have above := visible c member
  have differs (d : Char) (low : d.toNat ≤ 0x20) : (c == d) = false := by
    rw [beq_eq_false_iff_ne]
    exact ne_of_apply_ne Char.toNat (by omega)
  simp only [isBreak, differs '\t' (by decide), differs '\n' (by decide), differs '\r' (by decide),
    Bool.or_self, Bool.not_false]

/-- A name under a scheme that gives it no structure. -/
def urn (name : List Char) : Uri :=
  ⟨"urn".toList, none, .flat name, none, none⟩

section Urn

variable {name : List Char} (plain : ∀ c ∈ name, c.isAlphanum = true)

include plain

theorem chars_urn : (urn name).chars = "urn:".toList ++ name := by
  have noSlashes : (['/', '/'] : List Char).isPrefixOf name = false := by
    rw [Bool.eq_false_iff, ne_eq, List.isPrefixOf_iff_prefix]
    intro starts
    have slash := plain '/' (starts.subset (by simp))
    exact absurd slash (by decide)
  simp [chars, urn, authorityText, Path.text, noSlashes]

theorem code_of_plain {c : Char} (member : c ∈ name) : 0x20 < c.toNat ∧ c.toNat < 0x7f :=
  code_of_isAlphanum (plain c member)

theorem not_endsPath {c : Char} (member : c ∈ name) : (!endsPath c) = true := by
  have letter := plain c member
  have differs (d : Char) (mark : d.isAlphanum = false) : (c == d) = false := by
    rw [beq_eq_false_iff_ne]
    exact ne_of_apply_ne Char.isAlphanum (by simp [letter, mark])
  simp only [endsPath, differs '?' (by decide), differs '#' (by decide), Bool.or_self, Bool.not_false]

theorem escape_of_plain : escape escapesControls name = name := by
  refine escape_of_kept fun c member => ?_
  obtain ⟨low, high⟩ := code_of_plain plain member
  simp only [escapesControls, Bool.or_eq_false_iff, decide_eq_false_iff_not]
  omega

/-- A name of letters and digits is read as it was written. -/
theorem parse?_text_urn [Idna] : parse? (urn name).text = some (urn name) := by
  have visible : ∀ c ∈ "urn:".toList ++ name, 0x20 < c.toNat := by
    intro c member
    rcases List.mem_append.mp member with mark | inside
    · have scheme : "urn:".toList.all (fun c => 0x20 < c.toNat) = true := by decide
      simpa using List.all_eq_true.mp scheme c mark
    · exact (code_of_plain plain inside).1
  have scheme : scheme? ("urn:".toList ++ name) = some ("urn".toList, name) := rfl
  have path : name.takeWhile (!endsPath ·) = name := by
    rw [List.takeWhile_eq_self_iff]
    intro c member
    exact not_endsPath plain member
  have nothing : name.dropWhile (!endsPath ·) = [] := by
    rw [List.dropWhile_eq_nil_iff]
    intro c member
    exact not_endsPath plain member
  rw [parse?, text, String.toList_ofList, chars_urn plain, trimControls_of_visible visible,
    unbroken_of_visible visible, scheme]
  change other? "urn".toList name = _
  have flat := escape_of_plain plain
  -- Neither an authority nor a rooted path follows the scheme, as the name has no slash.
  unfold other?
  split
  next rest =>
    exact absurd (plain '/' (by simp)) (by decide)
  next =>
    rw [path, nothing]
    dsimp only
    split
    next rest => exact absurd (plain '/' (by simp)) (by decide)
    next => rw [flat]; rfl

end Urn

end CertLifecycle.Uri
