import CertLifecycle.Proofs.Ip.Text
import CertLifecycle.Proofs.Uri.Domain
import CertLifecycle.Proofs.Uri.Encoding
import CertLifecycle.Uri.Parser

/-!
The text of a host that was read is read again. It is in ASCII and has no escape left to undo, so a domain
name is found as it stands, and an address in the numbers of its own text. Main results:
`rereads_of_ofDomain?` and `rereads_of_ofName?`.
-/

namespace CertLifecycle.Uri

open Text (natChars pieces mem_join digit?_isSome_of_mem_natChars)

theorem code_of_digit? {base : Nat} {c : Char} (digit : (Text.digit? base c).isSome) :
    0x30 ≤ c.toNat ∧ c.toNat ≤ 0x39 ∨ 0x61 ≤ c.toNat ∧ c.toNat ≤ 0x66 ∨
      0x41 ≤ c.toNat ∧ c.toNat ≤ 0x46 := by
  rw [Text.digit?] at digit
  simp only [Char.le_def, UInt32.le_iff_toNat_le] at digit
  split at digit
  next decimal => exact .inl decimal
  next =>
    split at digit
    next lower => exact .inr (.inl lower)
    next =>
      split at digit
      next upper => exact .inr (.inr upper)
      next => cases digit

/-- A character that stands in an authority, without ending it, and is not trimmed. -/
structure Inside (c : Char) : Prop where
  visible : 0x20 < c.toNat
  noSlash : isSlash true c = false
  noEnd : endsPath c = false

namespace Host

/-- A character of a host name. -/
structure IsNameChar (c : Char) : Prop where
  visible : 0x20 < c.toNat
  allowed : isForbidden c = false

theorem IsNameChar.ne {c d : Char} (plain : IsNameChar c) (forbidden : isForbidden d = true) :
    c ≠ d :=
  ne_of_apply_ne isForbidden (by simp [plain.allowed, forbidden])

theorem IsNameChar.inside {c : Char} (plain : IsNameChar c) : Inside c where
  visible := plain.visible
  noSlash := by simp [isSlash, plain.ne (d := '/') (by decide), plain.ne (d := '\\') (by decide)]
  noEnd := by simp [endsPath, plain.ne (d := '?') (by decide), plain.ne (d := '#') (by decide)]

theorem isNameChar_of_digit? {base : Nat} {c : Char} (digit : (Text.digit? base c).isSome) :
    IsNameChar c := by
  have code := code_of_digit? digit
  -- Digits and letters are few enough to look at each of them.
  have apart : ∀ n < 0x67, 0x30 ≤ n ∧ n ≤ 0x39 ∨ 0x61 ≤ n ∧ n ≤ 0x66 ∨ 0x41 ≤ n ∧ n ≤ 0x46 →
      isForbidden (Char.ofNat n) = false := by decide
  have allowed := apart c.toNat (by omega) code
  rw [Char.ofNat_toNat] at allowed
  exact ⟨by omega, allowed⟩

theorem isNameChar_of_mem_v4 {ip : Ip.V4} {c : Char} (member : c ∈ ip.text) : IsNameChar c := by
  rcases mem_join member with dot | ⟨part, known, inside⟩
  · rw [List.mem_singleton.mp dot]
    exact ⟨by decide, by decide⟩
  · obtain ⟨octet, _, rfl⟩ := List.mem_map.mp known
    exact isNameChar_of_digit? (digit?_isSome_of_mem_natChars (by decide) (by decide) inside)

theorem isNameChar_of_mem_v6 {ip : Ip.V6} {c : Char} (member : c ∈ ip.text) :
    c = ':' ∨ IsNameChar c := by
  have groups {groups : List UInt16} (member : c ∈ Ip.V6.groupsText groups) :
      c = ':' ∨ IsNameChar c := by
    rcases mem_join member with colon | ⟨part, known, inside⟩
    · exact .inl (List.mem_singleton.mp colon)
    · obtain ⟨group, _, rfl⟩ := List.mem_map.mp known
      exact .inr (isNameChar_of_digit? (digit?_isSome_of_mem_natChars (by decide) (by decide) inside))
  rw [Ip.V6.text] at member
  dsimp only at member
  split at member
  next =>
    rcases List.mem_append.mp member with before | back
    · rcases List.mem_append.mp before with front | gap
      · exact groups front
      · exact .inl (by simpa using gap)
    · exact groups back
  next => exact groups member

/-- What may follow a host: nothing, or a port with its colon. -/
def BeginsPort (cs : List Char) : Prop :=
  cs = [] ∨ ∃ digits, cs = ':' :: digits

theorem cutPort_of_beginsPort {port : List Char} (begins : BeginsPort port) :
    cutPort false port = ([], port) := by
  rcases begins with rfl | ⟨digits, rfl⟩
  · rfl
  · simp [cutPort]

theorem cutPort_name {name port : List Char} (plain : ∀ c ∈ name, IsNameChar c)
    (begins : BeginsPort port) : cutPort false (name ++ port) = (name, port) := by
  induction name with
  | nil => exact cutPort_of_beginsPort begins
  | cons c rest ih =>
    have first := plain c List.mem_cons_self
    have later := ih fun d member => plain d (List.mem_cons_of_mem c member)
    rw [List.cons_append, cutPort]
    simp [first.ne (d := ':') (by decide), first.ne (d := '[') (by decide),
      first.ne (d := ']') (by decide), later]

theorem cutPort_inBrackets {text port : List Char} (plain : ∀ c ∈ text, c ≠ '[' ∧ c ≠ ']')
    (begins : BeginsPort port) :
    cutPort true (text ++ ']' :: port) = (text ++ [']'], port) := by
  induction text with
  | nil => simp [cutPort, cutPort_of_beginsPort begins]
  | cons c rest ih =>
    have first := plain c List.mem_cons_self
    have later := ih fun d member => plain d (List.mem_cons_of_mem c member)
    rw [List.cons_append, cutPort]
    simp [first.1, first.2, later]

/-- The text of a host stands inside of an authority, apart from the port, and is read as a host again.
That is the host without a name only if this one is. -/
structure Rereads (read : List Char → Option Host) (host : Host) : Prop where
  inside : ∀ c ∈ host.text, Inside c ∧ c ≠ '@'
  apart : ∀ port, BeginsPort port → cutPort false (host.text ++ port) = (host.text, port)
  again : ∃ other, read host.text = some other ∧ (other = .name [] → host = .name [])

theorem rereads_name {read : List Char → Option Host} {name : List Char}
    (plain : ∀ c ∈ name, IsNameChar c) (again : read name = some (.name name)) :
    Rereads read (.name name) where
  inside c member := ⟨(plain c member).inside, (plain c member).ne (by decide)⟩
  apart _ begins := cutPort_name plain begins
  again := ⟨.name name, again, id⟩

theorem rereads_ipv6 {read : List Char → Option Host} {ip : Ip.V6}
    (brackets : ∀ rest, read ('[' :: rest) = bracketed? rest) : Rereads read (.ipv6 ip) where
  inside := by
    intro c member
    have bracket {d : Char} (mark : d = '[' ∨ d = ']' ∨ d = ':') : Inside d ∧ d ≠ '@' := by
      rcases mark with rfl | rfl | rfl
      all_goals exact ⟨⟨by decide, by decide, by decide⟩, by decide⟩
    rw [text, List.mem_append, List.mem_append, List.mem_singleton, List.mem_singleton] at member
    rcases member with (opening | middle) | closing
    · exact bracket (.inl opening)
    · rcases isNameChar_of_mem_v6 middle with colon | plain
      · exact bracket (.inr (.inr colon))
      · exact ⟨plain.inside, plain.ne (by decide)⟩
    · exact bracket (.inr (.inl closing))
  apart := by
    intro port begins
    have plain : ∀ c ∈ ip.text, c ≠ '[' ∧ c ≠ ']' := by
      intro c member
      rcases isNameChar_of_mem_v6 member with rfl | plain
      · decide
      · exact ⟨plain.ne (by decide), plain.ne (by decide)⟩
    have whole : text (.ipv6 ip) ++ port = '[' :: (ip.text ++ ']' :: port) := by simp [text]
    rw [whole, cutPort]
    simp [cutPort_inBrackets plain begins, text]
  again := by
    refine ⟨.ipv6 ip, ?_, by simp⟩
    have whole : text (.ipv6 ip) = '[' :: (ip.text ++ [']']) := by simp [text]
    rw [whole, brackets, bracketed?]
    simp [Ip.V6.parse?_text]

/-- A domain name as it is written: in ASCII, with nothing that needs or undoes an escape. -/
structure IsDomain [Idna] (domain : List Char) : Prop where
  filled : domain ≠ []
  allowed : ∀ c ∈ domain, isForbiddenInDomain c = false
  settled : domainToAscii? domain = some domain

/-- Nothing of a domain name is changed before it is looked at. -/
theorem ofDomain?_of_isDomain [Idna] {domain : List Char} (proper : IsDomain domain) :
    ofDomain? domain =
      if endsInNumber domain then do
        (ipv4OfNumbers? (← (labels domain).mapM ipv4Number?)).map ipv4
      else some (.name domain) := by
  obtain ⟨filled, allowed, settled⟩ := proper
  have clean : '%' ∉ domain := by
    intro member
    exact absurd (allowed '%' member) (by decide)
  have decoded : Text.ofUtf8? (unescape domain) = some (String.ofList domain) := by
    rw [unescape_of_no_mark clean, ← Text.utf8_ofList, Text.ofUtf8?_utf8]
  have accepted : ¬(domain.isEmpty = true ∨ domain.any isForbiddenInDomain = true) := by
    simpa [filled] using allowed
  unfold ofDomain?
  split
  next rest =>
    exact absurd (allowed '[' List.mem_cons_self) (by decide)
  next =>
    rw [decoded, Option.bind_eq_bind, Option.bind_some, String.toList_ofList, settled,
      Option.bind_eq_bind, Option.bind_some, if_neg accepted]

theorem exists_ipv6_of_bracketed? {cs : List Char} {host : Host} (reads : bracketed? cs = some host) :
    ∃ ip, host = .ipv6 ip := by
  rw [bracketed?] at reads
  split at reads
  next =>
    obtain ⟨ip, _, rfl⟩ := Option.map_eq_some_iff.mp reads
    exact ⟨ip, rfl⟩
  next => cases reads

/-- What the host of a scheme of the web can be read as. -/
theorem cases_of_ofDomain? [Idna] [LawfulIdna] {cs : List Char} {host : Host}
    (reads : ofDomain? cs = some host) : (∃ ip, host = .ipv6 ip) ∨ (∃ ip, host = .ipv4 ip) ∨
      ∃ domain, host = .name domain ∧ IsDomain domain ∧ endsInNumber domain = false := by
  unfold ofDomain? at reads
  split at reads
  next => exact .inl (exists_ipv6_of_bracketed? reads)
  next =>
    obtain ⟨decoded, _, converted⟩ := Option.bind_eq_some_iff.mp reads
    obtain ⟨domain, ascii, found⟩ := Option.bind_eq_some_iff.mp converted
    split at found
    next => cases found
    next accepted =>
      rw [not_or] at accepted
      split at found
      next =>
        obtain ⟨numbers, _, address⟩ := Option.bind_eq_some_iff.mp found
        obtain ⟨ip, _, rfl⟩ := Option.map_eq_some_iff.mp address
        exact .inr (.inl ⟨ip, rfl⟩)
      next named =>
        have allowed : ∀ c ∈ domain, isForbiddenInDomain c = false := by simpa using accepted.2
        have proper : IsDomain domain :=
          ⟨by simpa using accepted.1, allowed, domainToAscii?_again ascii⟩
        exact .inr (.inr ⟨domain, (Option.some.inj found).symm, proper, by simpa using named⟩)

theorem ipv4Number?_natChars (n : Nat) : ipv4Number? (natChars 10 n) = some n := by
  have reads := Text.nat?_natChars (by decide : 1 < 10) (by decide) n
  unfold ipv4Number?
  split
  next empty => exact absurd empty (Text.natChars_ne_nil 10 n)
  next mark digits shape =>
    -- Only zero is written with a zero in front, and that is all of it.
    rcases Nat.eq_zero_or_pos n with rfl | positive
    · cases shape
    · exact absurd (by rw [shape]; rfl) (Text.head?_natChars_ne_zero (by decide : 1 < 10) positive)
  next => exact reads

theorem pieces_v4 (ip : Ip.V4) :
    pieces '.' ip.text = ip.octets.map fun octet => natChars 10 octet.toNat := by
  refine Text.pieces_join (by simp [Ip.V4.octets]) fun part member => ?_
  obtain ⟨octet, _, rfl⟩ := List.mem_map.mp member
  exact Text.not_mem_natChars (by decide) (by decide) (by decide) _

theorem labels_v4 (ip : Ip.V4) :
    labels ip.text = ip.octets.map fun octet => natChars 10 octet.toNat := by
  rw [labels, pieces_v4]
  simp [Ip.V4.octets, Text.natChars_ne_nil]

theorem dot_or_isDigit_of_mem_v4 {ip : Ip.V4} {c : Char} (member : c ∈ ip.text) :
    c = '.' ∨ c.isDigit = true := by
  rcases mem_join member with dot | ⟨part, known, inside⟩
  · exact .inl (List.mem_singleton.mp dot)
  · obtain ⟨octet, _, rfl⟩ := List.mem_map.mp known
    exact .inr (Text.isDigit_of_mem_natChars inside)

theorem code_of_mem_v4 {ip : Ip.V4} {c : Char} (member : c ∈ ip.text) :
    0x20 < c.toNat ∧ c.toNat < 0x7f := by
  rcases dot_or_isDigit_of_mem_v4 member with rfl | digit
  · decide
  · exact code_of_isAlphanum (by simp [Char.isAlphanum, digit])

/-- The text of an address is in ASCII, and its numbers are no encoded labels, which begin with a letter. -/
theorem isPlainDomain_v4 (ip : Ip.V4) : isPlainDomain ip.text = true := by
  rw [isPlainDomain, Bool.and_eq_true, List.all_eq_true, List.all_eq_true, pieces_v4]
  constructor
  · intro c member
    have code := code_of_mem_v4 member
    exact decide_eq_true (by omega)
  · intro label member
    obtain ⟨octet, _, rfl⟩ := List.mem_map.mp member
    rw [Bool.not_eq_true', isEncodedLabel, Bool.eq_false_iff, ne_eq, List.isPrefixOf_iff_prefix]
    intro starts
    have letter : 'x' ∈ natChars 10 octet.toNat := starts.subset (by simp)
    exact absurd (Text.isDigit_of_mem_natChars letter) (by decide)

theorem isDomain_v4 [Idna] (ip : Ip.V4) : IsDomain ip.text := by
  refine ⟨?_, fun c member => ?_, domainToAscii?_of_plain (isPlainDomain_v4 ip) fun c member => ?_⟩
  · intro empty
    have parts := labels_v4 ip
    rw [empty] at parts
    cases parts
  · have code := code_of_mem_v4 member
    have mark : c ≠ '%' := by
      rintro rfl
      exact absurd (dot_or_isDigit_of_mem_v4 member) (by decide)
    simp only [isForbiddenInDomain, (isNameChar_of_mem_v4 member).allowed, Bool.or_eq_false_iff,
      decide_eq_false_iff_not, beq_eq_false_iff_ne]
    exact ⟨⟨⟨trivial, by omega⟩, mark⟩, by omega⟩
  · rcases dot_or_isDigit_of_mem_v4 member with rfl | digit
    · rfl
    · exact Text.toLower_of_isDigit digit

theorem ofDomain?_v4 [Idna] (ip : Ip.V4) : ∃ other, ofDomain? ip.text = some (.ipv4 other) := by
  have number : endsInNumber ip.text = true := by
    have digits : (natChars 10 ip.d.toNat).all Char.isDigit = true :=
      List.all_eq_true.mpr fun c => Text.isDigit_of_mem_natChars
    simp [endsInNumber, labels_v4, Ip.V4.octets, digits, Text.natChars_ne_nil]
  have numbers : (labels ip.text).mapM ipv4Number? = some (ip.octets.map UInt8.toNat) := by
    simp [labels_v4, Ip.V4.octets, ipv4Number?_natChars]
  have bound (octet : UInt8) : octet.toNat < 256 := octet.toNat_lt
  rw [ofDomain?_of_isDomain (isDomain_v4 ip), if_pos number, numbers]
  simp [Ip.V4.octets, ipv4OfNumbers?, bound]

theorem isNameChar_of_code {c : Char} (low : 0x20 ≤ c.toNat) (allowed : isForbidden c = false) :
    IsNameChar c := by
  refine ⟨?_, allowed⟩
  have space : c.toNat ≠ 0x20 := by
    intro code
    rw [← Char.ofNat_toNat c, code] at allowed
    exact absurd allowed (by decide)
  omega

theorem isNameChar_of_isForbiddenInDomain {c : Char} (allowed : isForbiddenInDomain c = false) :
    IsNameChar c := by
  simp only [isForbiddenInDomain, Bool.or_eq_false_iff, decide_eq_false_iff_not] at allowed
  obtain ⟨⟨⟨plain, low⟩, _⟩, _⟩ := allowed
  exact isNameChar_of_code (by omega) plain

theorem isNameChar_of_mem_escape {cs : List Char} (accepted : ∀ c ∈ cs, isForbidden c = false) {c : Char}
    (member : c ∈ escape escapesControls cs) : IsNameChar c := by
  rcases mem_escape member with ⟨known, kept⟩ | mark
  · simp only [escapesControls, Bool.or_eq_false_iff, decide_eq_false_iff_not] at kept
    exact isNameChar_of_code (by omega) (accepted c known)
  · have marks : escapeMarks.all (fun d => 0x20 < d.toNat && !isForbidden d) = true := rfl
    have here := List.all_eq_true.mp marks c mark
    rw [Bool.and_eq_true, decide_eq_true_eq, Bool.not_eq_true'] at here
    exact ⟨here.1, here.2⟩

theorem ofName?_of_plain {name : List Char} (plain : ∀ c ∈ name, IsNameChar c)
    (kept : ∀ c ∈ name, escapesControls c = false) : ofName? name = some (.name name) := by
  have accepted : ¬name.any isForbidden = true := by
    rw [List.any_eq_true]
    rintro ⟨c, member, forbidden⟩
    rw [(plain c member).allowed] at forbidden
    cases forbidden
  unfold ofName?
  split
  next => exact absurd rfl ((plain '[' List.mem_cons_self).ne (by decide))
  next => rw [if_neg accepted, escape_of_kept kept]

/-- The host of a scheme of the web is read again from its text. -/
theorem rereads_of_ofDomain? [Idna] [LawfulIdna] {cs : List Char} {host : Host}
    (reads : ofDomain? cs = some host) : Rereads ofDomain? host := by
  rcases cases_of_ofDomain? reads with ⟨ip, rfl⟩ | ⟨ip, rfl⟩ | ⟨domain, rfl, proper, named⟩
  · exact rereads_ipv6 fun _ => rfl
  · obtain ⟨other, again⟩ := ofDomain?_v4 ip
    have plain : ∀ c ∈ ip.text, IsNameChar c := fun c => isNameChar_of_mem_v4
    refine ⟨fun c member => ?_, fun port begins => cutPort_name plain begins, .ipv4 other, again, by simp⟩
    exact ⟨(plain c member).inside, (plain c member).ne (by decide)⟩
  · refine rereads_name (fun c member => isNameChar_of_isForbiddenInDomain (proper.allowed c member)) ?_
    rw [ofDomain?_of_isDomain proper, named]
    rfl

theorem rereads_of_ofName? {cs : List Char} {host : Host} (reads : ofName? cs = some host) :
    Rereads ofName? host := by
  unfold ofName? at reads
  split at reads
  next =>
    obtain ⟨ip, rfl⟩ := exists_ipv6_of_bracketed? reads
    exact rereads_ipv6 fun _ => rfl
  next =>
    split at reads
    next => cases reads
    next accepted =>
      obtain rfl := Option.some.inj reads
      have allowed : ∀ c ∈ cs, isForbidden c = false := by simpa using accepted
      have plain : ∀ c ∈ escape escapesControls cs, IsNameChar c := fun c =>
        isNameChar_of_mem_escape allowed
      refine rereads_name plain (ofName?_of_plain plain fun c => ?_)
      exact not_escapes_of_mem_escape rfl

end Host

end CertLifecycle.Uri
