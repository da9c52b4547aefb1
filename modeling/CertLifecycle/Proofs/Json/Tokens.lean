import CertLifecycle.Json.Printer
import CertLifecycle.Json.Token
import CertLifecycle.Proofs.Text.Digits
import Mathlib.Data.List.TakeWhile

/-!
The compact text of a value is cut into the tokens that make it up. A number or a word has no end mark of
its own, so what is said about the machine after a part of the text is that nothing it still holds can get
lost. Main result: `tokens?_chars`, the tokens of the text are those of the value.
-/

namespace CertLifecycle.Json

mutual

/-- The tokens that a value is written with. -/
def tokens : Json → List Token
  | .string pieces => [.text pieces]
  | .array items => .openArray :: itemsTokens items ++ [.closeArray]
  | .object members => .openObject :: membersTokens members ++ [.closeObject]
  | j => [.value j]

/-- The tokens of the items of an array. -/
def itemsTokens : List Json → List Token
  | [] => []
  | [item] => item.tokens
  | item :: rest => item.tokens ++ .comma :: itemsTokens rest

/-- The tokens of the members of an object. -/
def membersTokens : List (List Piece × Json) → List Token
  | [] => []
  | [(name, value)] => .text name :: .colon :: value.tokens
  | (name, value) :: rest => .text name :: .colon :: value.tokens ++ .comma :: membersTokens rest

end

/-- A value made of texts and whole numbers: no string holds anything that belongs in no text, and no
number has a fraction or an exponent. -/
inductive Plain : Json → Prop where
  | null : Plain .null
  | bool (value : Bool) : Plain (.bool value)
  | integer (negative : Bool) (magnitude : Nat) : Plain (.integer negative magnitude)
  | string (cs : List Char) : Plain (.string (cs.map .char))
  | array {items : List Json} : (∀ item ∈ items, Plain item) → Plain (.array items)
  | object {members : List (List Piece × Json)} :
    (∀ member ∈ members, ∃ cs : List Char, member.1 = cs.map .char) →
      (∀ member ∈ members, Plain member.2) → Plain (.object members)

namespace Lexer

/-- No token is lost if the text ends here, or if it goes on with a character of no number or word. -/
structure Settled (lexer : Lexer) (found : List Token) : Prop where
  ends : lexer.finish? = some found.reverse
  goes_on : ∀ c, isLiteralChar c = false → lexer.step c = stepBetween found c

theorem settled_between (found : List Token) : Settled ⟨found, .between⟩ found :=
  ⟨rfl, fun _ _ => rfl⟩

theorem settled_literal {before : List Char} {value : Json} (reads : literal? before.reverse = some value)
    (found : List Token) : Settled ⟨found, .literal before⟩ (.value value :: found) := by
  constructor
  · simp [finish?, reads]
  · intro c other
    simp [step, other, reads]

theorem isLiteralChar_of_punctuation {c : Char} {token : Token}
    (mark : Token.punctuation? c = some token) : isLiteralChar c = false := by
  unfold Token.punctuation? at mark
  split at mark
  all_goals first
    | decide
    | cases mark

theorem stepBetween_literal {c : Char} (inside : isLiteralChar c = true) (found : List Token) :
    stepBetween found c = some ⟨found, .literal [c]⟩ := by
  have unmarked : Token.punctuation? c = none := by
    cases mark : Token.punctuation? c with
    | none => rfl
    | some token =>
      rw [isLiteralChar_of_punctuation mark] at inside
      cases inside
  have differs (d : Char) (outside : isLiteralChar d = false) : c ≠ d :=
    ne_of_apply_ne isLiteralChar (by simp [inside, outside])
  have visible : isSpace c = false := by
    simp [isSpace, differs ' ' (by decide), differs '\t' (by decide), differs '\n' (by decide),
      differs '\r' (by decide)]
  rw [stepBetween, unmarked]
  simp [visible, differs '"' (by decide), inside]

/-- The text of a part is cut into the tokens of that part, wherever it stands. -/
def Cuts (cs : List Char) (tokens : List Token) : Prop :=
  ∀ found, ∃ lexer, cs.foldlM step ⟨found, .between⟩ = some lexer ∧
    lexer.Settled (tokens.reverse ++ found)

theorem cuts_nil : Cuts [] [] := by
  intro found
  exact ⟨_, rfl, settled_between found⟩

/-- A punctuation character between two parts is the token between theirs. -/
theorem Cuts.around {cs cs' : List Char} {ts ts' : List Token} {c : Char} {token : Token}
    (first : Cuts cs ts) (mark : Token.punctuation? c = some token) (second : Cuts cs' ts') :
    Cuts (cs ++ c :: cs') (ts ++ token :: ts') := by
  intro found
  obtain ⟨lexer, read, settled⟩ := first found
  obtain ⟨last, read', settled'⟩ := second (token :: (ts.reverse ++ found))
  have stepped : lexer.step c = some ⟨token :: (ts.reverse ++ found), .between⟩ := by
    rw [settled.goes_on c (isLiteralChar_of_punctuation mark), stepBetween, mark]
  refine ⟨last, ?_, ?_⟩
  · rw [List.foldlM_append, read, Option.bind_eq_bind, Option.bind_some, List.foldlM_cons, stepped,
      Option.bind_eq_bind, Option.bind_some, read']
  · simpa using settled'

theorem cuts_literal {cs : List Char} {value : Json} (inside : ∀ c ∈ cs, isLiteralChar c = true)
    (reads : literal? cs = some value) (filled : cs ≠ []) : Cuts cs [.value value] := by
  intro found
  have goesOn : ∀ (rest before : List Char), (∀ c ∈ rest, isLiteralChar c = true) →
      rest.foldlM step ⟨found, .literal before⟩ = some ⟨found, .literal (rest.reverse ++ before)⟩ := by
    intro rest
    induction rest with
    | nil => exact fun _ _ => rfl
    | cons c rest ih =>
      intro before inside
      have here := inside c List.mem_cons_self
      have later := ih (c :: before) fun d member => inside d (List.mem_cons_of_mem c member)
      have stepped : step ⟨found, .literal before⟩ c = some ⟨found, .literal (c :: before)⟩ :=
        if_pos here
      rw [List.foldlM_cons, stepped, Option.bind_eq_bind, Option.bind_some, later, List.reverse_cons,
        List.append_assoc, List.singleton_append]
  obtain ⟨c, rest, rfl⟩ := List.exists_cons_of_ne_nil filled
  have start : step ⟨found, .between⟩ c = some ⟨found, .literal [c]⟩ :=
    stepBetween_literal (inside c List.mem_cons_self) found
  have read := goesOn rest [c] fun d member => inside d (List.mem_cons_of_mem c member)
  refine ⟨_, by rw [List.foldlM_cons, start, Option.bind_eq_bind, Option.bind_some, read], ?_⟩
  exact settled_literal (by simpa using reads) found

theorem foldlM_fourDigits {n : Nat} (small : n < 0x10000) (found : List Token) (before : List Piece) :
    (fourDigits n).foldlM step ⟨found, .unit before 3 0⟩ =
      some ⟨found, .string (pushUnit n before)⟩ := by
  have digit (d : Nat) : Text.digit? 16 (d % 16).digitChar = some (d % 16) :=
    Text.digit?_digitChar (Nat.mod_lt d (by decide)) (by decide)
  have value : (((0 * 16 + n / 0x1000 % 16) * 16 + n / 0x100 % 16) * 16 + n / 0x10 % 16) * 16 + n % 16 =
      n := by
    omega
  simp only [fourDigits, List.map_cons, List.map_nil, List.foldlM_cons, List.foldlM_nil, step, stepUnit,
    digit, Option.map_some, Option.bind_eq_bind, Option.bind_some, value, Option.pure_def]

theorem pushUnit_of_control {c : Char} (control : c.toNat < 0x20) (before : List Piece) :
    pushUnit c.toNat before = .char c :: before := by
  have trail : isTrail c.toNat = false := by
    simp only [isTrail, Bool.and_eq_false_iff, decide_eq_false_iff_not]
    omega
  have lead : isLead c.toNat = false := by
    simp only [isLead, Bool.and_eq_false_iff, decide_eq_false_iff_not]
    omega
  unfold pushUnit
  simp only [trail, lead, Bool.false_eq_true, if_false, Char.ofNat_toNat]

/-- A character between the quotes is read as that character, escaped or not. -/
theorem foldlM_charText (c : Char) (found : List Token) (before : List Piece) :
    (charText c).foldlM step ⟨found, .string before⟩ = some ⟨found, .string (.char c :: before)⟩ := by
  rw [charText]
  split
  next letter short =>
    -- Each short escape is undone by the letter that it is written with.
    unfold shortEscape? at short
    split at short
    all_goals first
      | (cases short; rfl)
      | cases short
  next bare =>
    split
    next control =>
      have digits := foldlM_fourDigits (Nat.lt_trans control (by decide)) found before
      rw [pushUnit_of_control control] at digits
      exact digits
    next visible =>
      have quote : c ≠ '"' := by
        rintro rfl
        cases bare
      have backslash : c ≠ '\\' := by
        rintro rfl
        cases bare
      simp [step, stepString, quote, backslash, visible]

theorem cuts_stringText (cs : List Char) :
    Cuts (stringText (cs.map .char)) [.text (cs.map .char)] := by
  intro found
  have inside : ∀ before : List Piece, ((cs.map Piece.char).flatMap Piece.text).foldlM step
      ⟨found, .string before⟩ = some ⟨found, .string ((cs.map Piece.char).reverse ++ before)⟩ := by
    induction cs with
    | nil => exact fun _ => rfl
    | cons c rest ih =>
      intro before
      rw [List.map_cons, List.flatMap_cons, List.foldlM_append, Piece.text, foldlM_charText,
        Option.bind_eq_bind, Option.bind_some, ih, List.reverse_cons, List.append_assoc,
        List.singleton_append]
  refine ⟨⟨.text (cs.map .char) :: found, .between⟩, ?_, settled_between _⟩
  have opened : step ⟨found, .between⟩ '"' = some ⟨found, .string []⟩ := rfl
  rw [stringText, List.cons_append, List.foldlM_cons, opened, Option.bind_eq_bind, Option.bind_some,
    List.foldlM_append, inside]
  simp [step, stepString]

end Lexer

open Lexer (Cuts cuts_nil cuts_literal cuts_stringText)

theorem isDigit_or_minus_of_mem_integerText {negative : Bool} {n : Nat} {c : Char}
    (member : c ∈ integerText negative n) : c.isDigit = true ∨ c = '-' := by
  rcases List.mem_append.mp member with sign | digit
  · cases negative with
    | true => exact .inr (List.mem_singleton.mp sign)
    | false => exact absurd sign List.not_mem_nil
  · exact .inl (Text.isDigit_of_mem_natChars digit)

theorem digits?_natChars (n : Nat) :
    digits? (Text.natChars 10 n) = some (Text.natChars 10 n, []) := by
  have taken : (Text.natChars 10 n).takeWhile Char.isDigit = Text.natChars 10 n := by
    rw [List.takeWhile_eq_self_iff]
    exact fun c member => Text.isDigit_of_mem_natChars member
  have dropped : (Text.natChars 10 n).dropWhile Char.isDigit = [] := by
    rw [List.dropWhile_eq_nil_iff]
    exact fun c member => Text.isDigit_of_mem_natChars member
  simp [digits?, taken, dropped, Text.natChars_ne_nil]

/-- What a whole number is written as is read as that number. -/
theorem number?_integerText (negative : Bool) (n : Nat) :
    number? (integerText negative n) = some (.integer negative n) := by
  have short : ¬((Text.natChars 10 n).length > 1 ∧ (Text.natChars 10 n).head? = some '0') := by
    rintro ⟨long, zero⟩
    rcases Nat.eq_zero_or_pos n with rfl | positive
    · exact absurd long (by decide)
    · exact Text.head?_natChars_ne_zero (by decide) positive zero
  cases negative with
  | true => simp [integerText, number?, digits?_natChars, short, Text.nat?_natChars]
  | false =>
    unfold number?
    split
    next sign unsigned cut =>
      split at cut
      next rest shape =>
        -- The first digit is no sign.
        have first : '-' ∈ Text.natChars 10 n := by
          rw [show Text.natChars 10 n = '-' :: rest from shape]
          exact List.mem_cons_self
        exact absurd (Text.isDigit_of_mem_natChars first) (by decide)
      next =>
        obtain ⟨rfl, rfl⟩ := Prod.mk.inj cut
        simp [integerText, digits?_natChars, short, Text.nat?_natChars]

theorem literal?_integerText (negative : Bool) (n : Nat) :
    literal? (integerText negative n) = some (.integer negative n) := by
  have inside {c : Char} (member : c ∈ integerText negative n) := isDigit_or_minus_of_mem_integerText member
  -- No word begins like a number.
  unfold literal?
  split
  next word => exact absurd (inside (word ▸ List.mem_cons_self)) (by decide)
  next word => exact absurd (inside (word ▸ List.mem_cons_self)) (by decide)
  next word => exact absurd (inside (word ▸ List.mem_cons_self)) (by decide)
  next => exact number?_integerText negative n

theorem isLiteralChar_of_mem_integerText {negative : Bool} {n : Nat} {c : Char}
    (member : c ∈ integerText negative n) : isLiteralChar c = true := by
  rcases isDigit_or_minus_of_mem_integerText member with digit | rfl
  · simp [isLiteralChar, Char.isAlphanum, digit]
  · decide

theorem cuts_integerText (negative : Bool) (n : Nat) :
    Cuts (integerText negative n) [.value (.integer negative n)] := by
  refine cuts_literal (fun c => isLiteralChar_of_mem_integerText) (literal?_integerText negative n) ?_
  simp [integerText, Text.natChars_ne_nil]

theorem cuts_itemsChars {items : List Json} (each : ∀ item ∈ items, Cuts item.chars item.tokens) :
    Cuts (itemsChars items) (itemsTokens items) := by
  induction items with
  | nil => exact cuts_nil
  | cons item rest ih =>
    have first := each item List.mem_cons_self
    have later := ih fun other member => each other (List.mem_cons_of_mem item member)
    cases rest with
    | nil => exact first
    | cons other more =>
      rw [itemsChars, itemsTokens]
      · exact first.around rfl later
      · exact List.cons_ne_nil _ _
      · exact List.cons_ne_nil _ _

theorem cuts_membersChars {members : List (List Piece × Json)}
    (texts : ∀ member ∈ members, ∃ cs : List Char, member.1 = cs.map .char)
    (each : ∀ member ∈ members, Cuts member.2.chars member.2.tokens) :
    Cuts (membersChars members) (membersTokens members) := by
  induction members with
  | nil => exact cuts_nil
  | cons member rest ih =>
    obtain ⟨name, value⟩ := member
    obtain ⟨cs, rfl⟩ := texts _ List.mem_cons_self
    have named : Cuts (stringText (cs.map .char) ++ ':' :: value.chars)
        (.text (cs.map .char) :: .colon :: value.tokens) :=
      (cuts_stringText cs).around rfl (each _ List.mem_cons_self)
    have later := ih (fun other member => texts other (List.mem_cons_of_mem _ member))
      fun other member => each other (List.mem_cons_of_mem _ member)
    cases rest with
    | nil => exact named
    | cons other more =>
      rw [membersChars, membersTokens]
      · exact named.around rfl later
      · exact List.cons_ne_nil _ _
      · exact List.cons_ne_nil _ _

/-- The text of a value made of texts and whole numbers is cut into the tokens of the value. -/
theorem cuts_chars {j : Json} (plain : j.Plain) : Cuts j.chars j.tokens := by
  induction plain with
  | null => exact cuts_literal (List.all_eq_true.mp rfl) rfl (List.cons_ne_nil _ _)
  | bool value =>
    cases value with
    | true => exact cuts_literal (List.all_eq_true.mp rfl) rfl (List.cons_ne_nil _ _)
    | false => exact cuts_literal (List.all_eq_true.mp rfl) rfl (List.cons_ne_nil _ _)
  | integer negative magnitude => exact cuts_integerText negative magnitude
  | string cs => exact cuts_stringText cs
  | array _ each =>
    exact cuts_nil.around rfl ((cuts_itemsChars each).around rfl cuts_nil)
  | object texts _ each =>
    exact cuts_nil.around rfl ((cuts_membersChars texts each).around rfl cuts_nil)

theorem tokens?_chars {j : Json} (plain : j.Plain) : tokens? j.chars = some j.tokens := by
  obtain ⟨lexer, read, settled⟩ := cuts_chars plain []
  rw [tokens?, Lexer.start, read, Option.bind_eq_bind, Option.bind_some, settled.ends]
  simp

end CertLifecycle.Json
