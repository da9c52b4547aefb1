import CertLifecycle.Json.Parser
import CertLifecycle.Proofs.Json.Tokens

/-!
A value is read back from its compact text. The tokens of a value are read as that value inside of whatever
is open around it, and they are what its text is cut into. Main result: `parse?_text`.
-/

namespace CertLifecycle.Json

namespace Parser

/-- Tokens write a value: where one is awaited they are read as this one, whatever is open. -/
def Writes (tokens : List Token) (j : Json) : Prop :=
  ∀ stack, tokens.foldlM step (.awaitValue stack) = some (.complete j stack)

/-- No value begins with the end of an array. -/
theorem exists_tokens_cons (j : Json) :
    ∃ first rest, j.tokens = first :: rest ∧ first ≠ .closeArray := by
  cases j <;> exact ⟨_, _, rfl, by simp⟩

/-- In an array that was just opened, a value is read as its first item. -/
theorem step_awaitItem {first : Token} (other : first ≠ .closeArray) (stack : List Frame) :
    step (.awaitItem stack) first = step (.awaitValue (.items [] :: stack)) first := by
  cases first <;> first | rfl | exact absurd rfl other

theorem foldlM_items {items : List Json} (filled : items ≠ [])
    (each : ∀ item ∈ items, Writes item.tokens item) (before : List Json) (stack : List Frame) :
    (itemsTokens items ++ [Token.closeArray]).foldlM step (.awaitValue (.items before :: stack)) =
      some (.complete (.array (before.reverse ++ items)) stack) := by
  induction items generalizing before with
  | nil => exact absurd rfl filled
  | cons item rest ih =>
    have first := each item List.mem_cons_self
    cases rest with
    | nil =>
      rw [itemsTokens, List.foldlM_append, first]
      simp [step, stepAfter]
    | cons other more =>
      have later := ih (List.cons_ne_nil _ _)
        (fun other member => each other (List.mem_cons_of_mem item member)) (item :: before)
      rw [itemsTokens, List.append_assoc, List.cons_append, List.foldlM_append, first,
        Option.bind_eq_bind, Option.bind_some, List.foldlM_cons]
      · simpa [step, stepAfter] using later
      · exact List.cons_ne_nil _ _

theorem writes_array {items : List Json} (each : ∀ item ∈ items, Writes item.tokens item) :
    Writes (tokens (.array items)) (.array items) := by
  intro stack
  cases items with
  | nil => rfl
  | cons item rest =>
    have inside := foldlM_items (List.cons_ne_nil item rest) each [] stack
    -- The first token of the first item is not the end of the array, so the array is not empty.
    obtain ⟨first, others, start, other⟩ := exists_tokens_cons item
    have starts : ∃ more, itemsTokens (item :: rest) ++ [Token.closeArray] = first :: more := by
      cases rest with
      | nil => exact ⟨others ++ [.closeArray], by simp [itemsTokens, start]⟩
      | cons next more =>
        exact ⟨others ++ .comma :: (itemsTokens (next :: more) ++ [.closeArray]), by
          simp [itemsTokens, start]⟩
    obtain ⟨more, shape⟩ := starts
    rw [shape, List.foldlM_cons, ← step_awaitItem other] at inside
    rw [tokens, List.cons_append, List.foldlM_cons, shape]
    exact inside

theorem foldlM_members {members : List (List Piece × Json)} (filled : members ≠ [])
    (each : ∀ member ∈ members, Writes member.2.tokens member.2)
    (before : List (List Piece × Json)) (stack : List Frame) :
    (membersTokens members ++ [Token.closeObject]).foldlM step (.awaitName before stack) =
      some (.complete (.object (before.reverse ++ members)) stack) := by
  induction members generalizing before with
  | nil => exact absurd rfl filled
  | cons member rest ih =>
    obtain ⟨name, value⟩ := member
    have first := each _ List.mem_cons_self (.members before name :: stack)
    cases rest with
    | nil =>
      rw [membersTokens, List.cons_append, List.cons_append, List.foldlM_cons]
      simp only [step, Option.bind_eq_bind, Option.bind_some, List.foldlM_cons, List.foldlM_append, first]
      simp [stepAfter]
    | cons other more =>
      have later := ih (List.cons_ne_nil _ _)
        (fun other member => each other (List.mem_cons_of_mem _ member)) ((name, value) :: before)
      rw [membersTokens]
      · simp only [List.cons_append, List.append_assoc, step, Option.bind_eq_bind, Option.bind_some,
          List.foldlM_cons, List.foldlM_append, first]
        simpa [step, stepAfter] using later
      · exact List.cons_ne_nil _ _

theorem writes_object {members : List (List Piece × Json)}
    (each : ∀ member ∈ members, Writes member.2.tokens member.2) :
    Writes (tokens (.object members)) (.object members) := by
  intro stack
  cases members with
  | nil => rfl
  | cons member rest =>
    obtain ⟨name, value⟩ := member
    have inside := foldlM_members (List.cons_ne_nil _ rest) each [] stack
    -- The first name opens the object as it would after a comma.
    have starts : ∃ more,
        membersTokens ((name, value) :: rest) ++ [Token.closeObject] = Token.text name :: more := by
      cases rest <;> exact ⟨_, rfl⟩
    obtain ⟨more, shape⟩ := starts
    rw [shape] at inside
    rw [tokens, List.cons_append, List.foldlM_cons, shape]
    exact inside

end Parser

open CertLifecycle.Json.Parser (Writes writes_array writes_object)

mutual

/-- The tokens of a value write that value. -/
theorem writes_tokens : ∀ j : Json, Writes j.tokens j
  | .null => fun _ => rfl
  | .bool _ => fun _ => rfl
  | .integer .. => fun _ => rfl
  | .real _ => fun _ => rfl
  | .string _ => fun _ => rfl
  | .array items => writes_array (writes_items items)
  | .object members => writes_object (writes_members members)

theorem writes_items : ∀ items : List Json, ∀ item ∈ items, Writes item.tokens item
  | [] => List.forall_mem_nil _
  | item :: rest => List.forall_mem_cons.mpr ⟨writes_tokens item, writes_items rest⟩

theorem writes_members : ∀ members : List (List Piece × Json), ∀ member ∈ members,
    Writes member.2.tokens member.2
  | [] => List.forall_mem_nil _
  | (_, value) :: rest => List.forall_mem_cons.mpr ⟨writes_tokens value, writes_members rest⟩

end

theorem ofTokens?_tokens (j : Json) : ofTokens? j.tokens = some j := by
  rw [ofTokens?, writes_tokens j []]
  rfl

/-- The compact text of a value made of texts and whole numbers is read as that value. -/
theorem parse?_text {j : Json} (plain : j.Plain) : parse? j.text = some j := by
  rw [parse?, text, String.toList_ofList, tokens?_chars plain, Option.bind_eq_bind, Option.bind_some,
    ofTokens?_tokens]

end CertLifecycle.Json
