import CertLifecycle.Proofs.Uri.Authority
import CertLifecycle.Proofs.Uri.Urn

/-!
The text of a URI that was read is read again. `Parsed` says what its parts are like: the scheme is in lower
case, the authority is readable, and a path without an authority has no tab or line end. Read again, the text
is cut at the same places, apart from blanks trimmed at its end. Main result: `isSome_parse?_text`, for every
lawful way of bringing domains into ASCII.
-/

namespace CertLifecycle.Uri

/-- A scheme as it is written: in lower case, with a letter in front. -/
structure IsScheme (scheme : List Char) : Prop where
  first : ∃ c rest, scheme = c :: rest ∧ c.isAlpha = true
  chars : ∀ c ∈ scheme, (c.isAlphanum || c == '+' || c == '-' || c == '.') = true
  lower : ∀ c ∈ scheme, c.toLower = c

theorem isScheme_of_scheme? {cs scheme rest : List Char} (found : scheme? cs = some (scheme, rest)) :
    IsScheme scheme := by
  unfold scheme? at found
  extract_lets belongs at found
  split at found
  next first more _ taken _ =>
    split at found
    next letter =>
      obtain ⟨rfl, _⟩ := Prod.mk.inj (Option.some.inj found)
      have inside : ∀ c ∈ first :: more, belongs c = true := by
        rw [← taken]
        exact fun c => List.mem_takeWhile_imp
      have lowered {c : Char} (known : belongs c = true) : belongs c.toLower = true := by
        simp only [belongs, Bool.or_eq_true, beq_iff_eq, Char.isAlphanum] at known ⊢
        rcases known with (((letter | digit) | rfl) | rfl) | rfl
        · simp [Text.isAlpha_toLower letter]
        · rw [Text.toLower_of_isDigit digit]
          simp [digit]
        all_goals decide
      refine ⟨⟨first.toLower, more.map Char.toLower, rfl, ?_⟩, ?_, ?_⟩
      · exact Text.isAlpha_toLower letter
      · intro c member
        obtain ⟨origin, known, rfl⟩ := List.mem_map.mp member
        exact lowered (inside origin known)
      · intro c member
        obtain ⟨origin, _, rfl⟩ := List.mem_map.mp member
        exact Text.toLower_toLower origin
    next => cases found
  next => cases found

theorem IsScheme.scheme?_append {scheme : List Char} (proper : IsScheme scheme) (rest : List Char) :
    scheme? (scheme ++ ':' :: rest) = some (scheme, rest) := by
  obtain ⟨⟨first, more, rfl, letter⟩, chars, lower⟩ := proper
  unfold scheme?
  extract_lets belongs
  have taken : (first :: more ++ ':' :: rest).takeWhile belongs = first :: more := by
    rw [List.takeWhile_append_of_pos chars, List.takeWhile_cons_of_neg (by simp)]
    simp
  have dropped : (first :: more ++ ':' :: rest).dropWhile belongs = ':' :: rest := by
    rw [List.dropWhile_append_of_pos chars, List.dropWhile_cons_of_neg (by simp)]
  have kept : (first :: more).map Char.toLower = first :: more :=
    (List.map_congr_left lower).trans (List.map_id _)
  rw [taken, dropped]
  change (if first.isAlpha = true then some ((first :: more).map Char.toLower, rest) else none) = _
  rw [if_pos letter, kept]

theorem IsScheme.visible {scheme : List Char} (proper : IsScheme scheme) {c : Char}
    (member : c ∈ scheme) : 0x20 < c.toNat := by
  have known := proper.chars c member
  simp only [Bool.or_eq_true, beq_iff_eq] at known
  rcases known with ((letter | rfl) | rfl) | rfl
  · exact (code_of_isAlphanum letter).1
  all_goals decide

/-- What may follow an authority: nothing, or a path, a query or a fragment with the mark in front. -/
def Continues (cs : List Char) : Prop :=
  ∀ c ∈ cs.head?, c = '/' ∨ endsPath c = true

theorem Continues.of_prefix {kept rest : List Char} (continues : Continues rest) (front : kept <+: rest) :
    Continues kept := by
  intro c first
  obtain ⟨more, rfl⟩ := front
  refine continues c ?_
  rw [List.head?_append, first]
  rfl

theorem Continues.unbroken {cs : List Char} (continues : Continues cs) :
    Continues (Uri.unbroken cs) := by
  cases cs with
  | nil => exact continues
  | cons c rest =>
    have mark := continues c rfl
    have kept : (!isBreak c) = true := by
      rcases mark with rfl | ends
      · rfl
      · simp only [endsPath, Bool.or_eq_true, beq_iff_eq] at ends
        rcases ends with rfl | rfl <;> rfl
    intro d first
    rw [Uri.unbroken, List.filter_cons, if_pos kept] at first
    exact continues d first

section Authority

variable {front rest : List Char} (inside : ∀ c ∈ front, Inside c) (continues : Continues rest)

include inside continues

/-- An authority ends where its path, query or fragment begins. -/
theorem span_authority (special : Bool) :
    (front ++ rest).takeWhile (fun c => !(isSlash special c || endsPath c)) = front ∧
      (front ++ rest).dropWhile (fun c => !(isSlash special c || endsPath c)) = rest := by
  have goesOn : ∀ c ∈ front, (!(isSlash special c || endsPath c)) = true := by
    intro c member
    obtain ⟨_, noSlash, noEnd⟩ := inside c member
    cases special <;> simp_all [isSlash]
  rw [List.takeWhile_append_of_pos goesOn, List.dropWhile_append_of_pos goesOn]
  cases rest with
  | nil => simp
  | cons c more =>
    have ends : ¬(!(isSlash special c || endsPath c)) = true := by
      rcases continues c rfl with rfl | mark
      · simp [isSlash]
      · simp [mark]
    rw [List.takeWhile_cons, if_neg ends, List.dropWhile_cons, if_neg ends, List.append_nil]
    exact ⟨rfl, rfl⟩

end Authority

theorem exists_trimControls_append {front : List Char} (filled : front ≠ [])
    (visible : ∀ c ∈ front, 0x20 < c.toNat) (rest : List Char) :
    ∃ kept, kept <+: rest ∧ trimControls (front ++ rest) = front ++ kept := by
  unfold trimControls
  extract_lets outer
  have solid : ∀ c ∈ front, ¬outer c = true := by
    intro c member
    have above := visible c member
    simpa [outer] using above
  have begins : (front ++ rest).dropWhile outer = front ++ rest := by
    obtain ⟨c, more, rfl⟩ := List.exists_cons_of_ne_nil filled
    rw [List.cons_append, List.dropWhile_cons, if_neg (solid c List.mem_cons_self)]
  have ends : front.reverse.dropWhile outer = front.reverse := by
    obtain ⟨c, more, shape⟩ := List.exists_cons_of_ne_nil (List.reverse_ne_nil_iff.mpr filled)
    have last : c ∈ front := List.mem_reverse.mp (shape ▸ List.mem_cons_self)
    rw [shape, List.dropWhile_cons, if_neg (solid c last)]
  rw [begins, Text.dropTrailing, List.reverse_append, List.dropWhile_append, ends]
  -- Either all of the rest is trimmed, or what is trimmed is an end of it.
  split
  next => exact ⟨[], List.nil_prefix, by simp⟩
  next =>
    refine ⟨(rest.reverse.dropWhile outer).reverse, ?_, by simp⟩
    have suffix := List.dropWhile_suffix (l := rest.reverse) outer
    rwa [← List.reverse_prefix, List.reverse_reverse] at suffix

theorem not_isBreak_of_not_control {c : Char} (kept : escapesControls c = false) : isBreak c = false := by
  have differs (d : Char) (control : escapesControls d = true) : c ≠ d :=
    ne_of_apply_ne escapesControls (by simp [kept, control])
  simp [isBreak, differs '\t' (by decide), differs '\n' (by decide), differs '\r' (by decide)]

theorem eq_of_into {segment name : List Char} (step : SegmentStep.of segment = .into name) :
    name = segment := by
  unfold SegmentStep.of at step
  extract_lets lower dots at step
  split at step
  next => cases step
  next =>
    split at step
    next => cases step
    next => exact (SegmentStep.into.inj step).symm

theorem parentOf_subset (kept : List (List Char)) : parentOf kept ⊆ kept := by
  cases kept with
  | nil => exact List.Subset.refl _
  | cons last earlier =>
    rw [parentOf]
    split
    · exact List.Subset.refl _
    · exact List.subset_cons_self last earlier

/-- No segment that is walked through keeps a tab or a line end. -/
theorem unbroken_through {walk : Walk}
    (before : ∀ segment ∈ walk.kept, ∀ c ∈ segment, isBreak c = false) (raw : List (List Char)) :
    ∀ segment ∈ (Walk.through false walk raw).kept, ∀ c ∈ segment, isBreak c = false := by
  induction raw generalizing walk with
  | nil => exact before
  | cons first rest ih =>
    -- A dot segment at the end leaves an empty segment behind.
    have close {kept : List (List Char)}
        (clean : ∀ segment ∈ kept, ∀ c ∈ segment, isBreak c = false) :
        ∀ segment ∈ if rest.isEmpty then [] :: kept else kept, ∀ c ∈ segment, isBreak c = false := by
      split
      · simpa using clean
      · exact clean
    rw [Walk.through]
    dsimp only
    simp only [Bool.false_and, Bool.false_eq_true, if_false]
    split
    next => exact ih (close before)
    next => exact ih (close fun segment member => before segment (parentOf_subset _ member))
    next name step =>
      refine ih fun segment member => ?_
      rcases List.mem_cons.mp member with rfl | earlier
      · intro c inside
        rw [eq_of_into step] at inside
        have kept := not_escapes_of_mem_escape rfl inside
        simp only [escapesInPath, escapesInFragment, Bool.or_eq_false_iff] at kept
        exact not_isBreak_of_not_control kept.1.1
      · exact before segment earlier

/-- Query and fragment as they are written. -/
def ending (query fragment : Option (List Char)) : List Char :=
  (query.map ('?' :: ·)).getD [] ++ (fragment.map ('#' :: ·)).getD []

theorem no_slash_before_ending (query fragment : Option (List Char)) (more : List Char) :
    unbroken (ending query fragment) ≠ '/' :: more := by
  cases query <;> cases fragment <;> simp [ending, unbroken, isBreak]

theorem continues_segments (parts : List (List Char)) (query fragment : Option (List Char)) :
    Continues ((Path.segments parts).text ++ ending query fragment) := by
  cases parts <;> cases query <;> cases fragment <;> simp [Continues, ending, Path.text, endsPath]

theorem unbroken_append {front : List Char} (visible : ∀ c ∈ front, 0x20 < c.toNat) (rest : List Char) :
    unbroken (front ++ rest) = front ++ unbroken rest := by
  have kept := unbroken_of_visible visible
  rw [unbroken] at kept
  rw [unbroken, List.filter_append, kept, unbroken]

/-- Without an authority, what follows the scheme is not taken for one. -/
theorem no_slashes_after_scheme {path : Path} (clean : ∀ c ∈ path.text, isBreak c = false)
    (scheme : List Char) (query fragment : Option (List Char)) {kept : List Char}
    (front : kept <+: authorityText ⟨scheme, none, path, query, fragment⟩ ++
      (path.text ++ ending query fragment)) (more : List Char) : unbroken kept ≠ '/' :: '/' :: more := by
  intro slashes
  have double : ['/', '/'] <+: unbroken kept := by
    rw [slashes]
    exact ⟨more, rfl⟩
  have whole := double.trans (front.filter _)
  have undamaged : unbroken path.text = path.text := by
    refine List.filter_eq_self.mpr fun c member => ?_
    rw [clean c member]
    rfl
  unfold unbroken at undamaged
  rw [authorityText] at whole
  dsimp only at whole
  split at whole
  next =>
    -- A dot segment stands between the slashes.
    simp [isBreak] at whole
  next apart =>
    rw [List.nil_append, List.filter_append, undamaged] at whole
    refine apart (List.isPrefixOf_iff_prefix.mpr ?_)
    have noSlash := no_slash_before_ending query fragment
    unfold unbroken at noSlash
    -- A single character leaves the second slash to the query or the fragment, which begins with none.
    rcases shape : path.text with _ | ⟨c, _ | ⟨d, rest⟩⟩
    · rw [shape, List.nil_append] at whole
      obtain ⟨tail, same⟩ := whole
      exact absurd same.symm (noSlash _)
    · rw [shape, List.singleton_append, List.cons_prefix_cons] at whole
      obtain ⟨tail, same⟩ := whole.2
      exact absurd same.symm (noSlash _)
    · rw [shape] at whole
      simpa using whole

variable [Idna]

/-- An authority of the web has a host with a name. -/
theorem Authority.Readable.text_ne_nil {kind : SchemeKind} {authority : Authority}
    (readable : authority.Readable kind) (special : kind ≠ .other) : authority.text ≠ [] := by
  intro empty
  obtain ⟨other, reads, _⟩ := readable.host.again
  have nameless : authority.host.text = [] := by
    rw [text, List.append_eq_nil_iff, List.append_eq_nil_iff] at empty
    exact empty.1.2
  rw [nameless] at reads
  cases kind with
  | other => exact special rfl
  | file => cases reads
  | web => cases reads

theorem afterSlashes?_isSome {kind : SchemeKind} {authority : Authority} {rest : List Char}
    (readable : authority.Readable kind) (continues : Continues rest) (scheme : List Char)
    (special : Bool) : (afterSlashes? scheme kind special (authority.text ++ rest)).isSome := by
  obtain ⟨front, back⟩ := span_authority (fun c => readable.inside) continues special
  obtain ⟨found, reads⟩ := Option.isSome_iff_exists.mp (readable.again rest)
  unfold afterSlashes?
  extract_lets ends
  rw [front, back, reads]
  rfl

/-- What a URI that was read is like. -/
inductive Parsed : Uri → Prop where
  | slashes {kind : SchemeKind} {scheme : List Char} {authority : Authority} (parts : List (List Char))
      (query fragment : Option (List Char)) (proper : IsScheme scheme)
      (of : SchemeKind.of scheme = kind) (noFile : kind ≠ .file) (readable : authority.Readable kind) :
      Parsed ⟨scheme, some authority, .segments parts, query, fragment⟩
  | file {host : Host} (parts : List (List Char)) (query fragment : Option (List Char))
      (inside : ∀ c ∈ host.text, Inside c) (again : (fileHost? host.text).isSome) :
      Parsed ⟨"file".toList, some ⟨none, host, none⟩, .segments parts, query, fragment⟩
  | plain {scheme : List Char} {path : Path} (query fragment : Option (List Char))
      (proper : IsScheme scheme) (other : SchemeKind.of scheme = .other)
      (unbroken : ∀ c ∈ path.text, isBreak c = false) : Parsed ⟨scheme, none, path, query, fragment⟩

theorem fileHost?_again [LawfulIdna] {cs : List Char} {host : Host} (reads : fileHost? cs = some host) :
    (∀ c ∈ host.text, Inside c) ∧ (fileHost? host.text).isSome := by
  have nameless : (∀ c ∈ Host.text (.name []), Inside c) ∧ (fileHost? (Host.text (.name []))).isSome :=
    ⟨by simp [Host.text], rfl⟩
  unfold fileHost? at reads
  split at reads
  next => exact Option.some.inj reads ▸ nameless
  next =>
    obtain ⟨domain, found, kept⟩ := Option.bind_eq_some_iff.mp reads
    split at kept
    next => exact Option.some.inj kept ▸ nameless
    next =>
      obtain rfl := Option.some.inj kept
      obtain ⟨inside, _, other, again, _⟩ := Host.rereads_of_ofDomain? found
      refine ⟨fun c member => (inside c member).1, ?_⟩
      rw [fileHost?]
      split
      next => rfl
      next =>
        rw [again]
        rfl

theorem parsed_fileUri {host : Host} (inside : ∀ c ∈ host.text, Inside c)
    (again : (fileHost? host.text).isSome) (rest : List Char) : Parsed (fileUri host rest) := by
  unfold fileUri
  -- A path with a drive letter drops the host.
  rcases walkPath true true (rest.takeWhile (!endsPath ·)) with ⟨segments, keepsHost⟩
  cases keepsHost with
  | true => exact .file _ _ _ inside again
  | false => exact .file _ _ _ (by simp [Host.text]) rfl

theorem parsed_file? [LawfulIdna] {cs : List Char} {uri : Uri} (reads : file? cs = some uri) :
    Parsed uri := by
  have nameless (rest : List Char) : Parsed (fileUri (.name []) rest) :=
    parsed_fileUri (by simp [Host.text]) rfl rest
  unfold file? at reads
  split at reads
  next => exact Option.some.inj reads ▸ nameless _
  next =>
    split at reads
    next => exact Option.some.inj reads ▸ nameless _
    next =>
      unfold fileAfterSlashes? at reads
      extract_lets ends rawHost at reads
      split at reads
      next => exact Option.some.inj reads ▸ nameless _
      next =>
        obtain ⟨host, found, built⟩ := Option.bind_eq_some_iff.mp reads
        obtain ⟨inside, again⟩ := fileHost?_again found
        split at built
        all_goals exact Option.some.inj built ▸ parsed_fileUri inside again _

theorem parsed_afterSlashes? [LawfulIdna] {kind : SchemeKind} {scheme cs : List Char}
    {special : Bool} {uri : Uri} (proper : IsScheme scheme) (of : SchemeKind.of scheme = kind)
    (noFile : kind ≠ .file) (reads : afterSlashes? scheme kind special cs = some uri) :
    Parsed uri := by
  obtain ⟨⟨authority, early⟩, found, rest⟩ := Option.bind_eq_some_iff.mp reads
  obtain rfl := Option.some.inj rest
  exact .slashes _ _ _ proper of noFile (Authority.readable_of_authority? found)

theorem parsed_other? [LawfulIdna] {scheme cs : List Char} {uri : Uri} (proper : IsScheme scheme)
    (of : SchemeKind.of scheme = .other) (reads : other? scheme cs = some uri) : Parsed uri := by
  unfold other? at reads
  split at reads
  next => exact parsed_afterSlashes? proper of (by simp) reads
  next =>
    obtain rfl := Option.some.inj reads
    refine .plain _ _ proper of ?_
    split
    next rest _ =>
      intro c member
      obtain ⟨part, known, inside⟩ := List.mem_flatMap.mp member
      rcases List.mem_cons.mp inside with rfl | within
      · rfl
      · exact unbroken_through (by simp) _ part (List.mem_reverse.mp known) c within
    next =>
      exact fun c member => not_isBreak_of_not_control (not_escapes_of_mem_escape rfl member)

theorem parsed_parse? [LawfulIdna] {s : String} {uri : Uri} (reads : parse? s = some uri) : Parsed uri := by
  obtain ⟨⟨scheme, rest⟩, found, reads⟩ := Option.bind_eq_some_iff.mp reads
  have proper := isScheme_of_scheme? found
  dsimp only at reads
  split at reads
  next port of => exact parsed_afterSlashes? proper of (by simp) reads
  next => exact parsed_file? reads
  next of => exact parsed_other? proper of reads

/-- What is read once the scheme is known. -/
theorem parse?_append {scheme front rest : List Char} (proper : IsScheme scheme)
    (visible : ∀ c ∈ front, 0x20 < c.toNat) :
    ∃ kept, kept <+: rest ∧ parse? (String.ofList (scheme ++ ':' :: front ++ rest)) =
      match SchemeKind.of scheme with
      | .web port => afterSlashes? scheme (.web port) true
          ((front ++ unbroken kept).dropWhile (isSlash true))
      | .file => file? (front ++ kept)
      | .other => other? scheme (front ++ unbroken kept) := by
  have whole : ∀ c ∈ scheme ++ ':' :: front, 0x20 < c.toNat := by
    intro c member
    rcases List.mem_append.mp member with named | inside
    · exact proper.visible named
    · rcases List.mem_cons.mp inside with rfl | inside
      · decide
      · exact visible c inside
  obtain ⟨kept, before, trimmed⟩ := exists_trimControls_append (by simp) whole rest
  refine ⟨kept, before, ?_⟩
  have raw : ((scheme ++ ':' :: front ++ kept).dropWhile (· != ':')).drop 1 = front ++ kept := by
    have named : ∀ c ∈ scheme, (c != ':') = true := by
      intro c member
      rw [bne_iff_ne]
      rintro rfl
      exact absurd (proper.chars ':' member) (by decide)
    rw [List.append_assoc, List.dropWhile_append_of_pos named]
    simp
  have clean := unbroken_append whole kept
  rw [List.append_assoc, List.cons_append] at clean
  rw [parse?, String.toList_ofList, trimmed]
  dsimp only
  rw [raw, List.append_assoc, List.cons_append, clean, List.append_assoc, List.cons_append,
    proper.scheme?_append]
  rfl

theorem dropWhile_slashes {kind : SchemeKind} {authority : Authority} (readable : authority.Readable kind)
    (filled : authority.text ≠ []) (rest : List Char) :
    ('/' :: '/' :: authority.text ++ rest).dropWhile (isSlash true) = authority.text ++ rest := by
  obtain ⟨c, more, shape⟩ := List.exists_cons_of_ne_nil filled
  have first : c ∈ authority.text := shape ▸ List.mem_cons_self
  have solid := (readable.inside first).noSlash
  rw [shape]
  simp [solid, show isSlash true '/' = true from rfl]

theorem fileAfterSlashes?_isSome {host rest : List Char} (inside : ∀ c ∈ host, Inside c)
    (again : (fileHost? host).isSome) (continues : Continues rest) :
    (fileAfterSlashes? (host ++ rest)).isSome := by
  obtain ⟨front, back⟩ := span_authority inside continues true
  obtain ⟨found, reads⟩ := Option.isSome_iff_exists.mp again
  have visible := unbroken_of_visible fun c member => (inside c member).visible
  unfold fileAfterSlashes?
  extract_lets ends rawHost
  have whole : rawHost = host := by
    simp only [rawHost, ends, front, visible]
  split
  next => rfl
  next =>
    rw [whole, reads, Option.bind_eq_bind, Option.bind_some]
    split <;> rfl

/-- The text of a URI that was read is read again. -/
theorem isSome_parse?_text [LawfulIdna] {s : String} {uri : Uri} (reads : parse? s = some uri) :
    (parse? uri.text).isSome := by
  -- In each case the scheme and what follows it are found again, and then the rest is always read.
  cases parsed_parse? reads with
  | @slashes kind scheme authority parts query fragment proper of noFile readable =>
    have visible : ∀ c ∈ '/' :: '/' :: authority.text, 0x20 < c.toNat := by
      simpa using fun c member => (readable.inside member).visible
    have continues := continues_segments parts query fragment
    obtain ⟨kept, before, read⟩ := parse?_append proper visible
    have shape : chars ⟨scheme, some authority, .segments parts, query, fragment⟩ =
        scheme ++ ':' :: '/' :: '/' :: authority.text ++
          ((Path.segments parts).text ++ ending query fragment) := by
      simp [chars, Uri.authorityText, ending]
    have later := (continues.of_prefix before).unbroken
    rw [text, shape, read, of]
    cases kind with
    | file => exact absurd rfl noFile
    | web port =>
      -- All slashes after a scheme of the web are skipped, and the authority begins with none.
      have filled := readable.text_ne_nil (by simp)
      dsimp only
      rw [dropWhile_slashes readable filled]
      exact afterSlashes?_isSome readable later scheme true
    | other => exact afterSlashes?_isSome readable later scheme false
  | @file host parts query fragment inside again =>
    have visible : ∀ c ∈ '/' :: '/' :: host.text, 0x20 < c.toNat := by
      simpa using fun c member => (inside c member).visible
    have continues := continues_segments parts query fragment
    have proper : IsScheme "file".toList := isScheme_of_scheme? (rfl : scheme? "file:".toList = _)
    obtain ⟨kept, before, read⟩ := parse?_append proper visible
    have shape : chars ⟨"file".toList, some ⟨none, host, none⟩, .segments parts, query, fragment⟩ =
        "file".toList ++ ':' :: '/' :: '/' :: host.text ++
          ((Path.segments parts).text ++ ending query fragment) := by
      simp [chars, Uri.authorityText, Authority.text, ending]
    rw [text, shape, read]
    exact fileAfterSlashes?_isSome inside again (continues.of_prefix before)
  | @plain scheme path query fragment proper other clean =>
    obtain ⟨kept, before, read⟩ := parse?_append proper (List.forall_mem_nil _)
    have shape : chars ⟨scheme, none, path, query, fragment⟩ =
        scheme ++ ':' :: [] ++ (authorityText ⟨scheme, none, path, query, fragment⟩ ++
          (path.text ++ ending query fragment)) := by
      simp [chars, ending]
    -- Any path will do, as long as it is not taken for an authority.
    have apart := no_slashes_after_scheme clean scheme query fragment before
    rw [text, shape, read, other]
    dsimp only
    rw [List.nil_append]
    unfold other?
    split
    next rest shape => exact absurd shape (apart rest)
    next => rfl

end CertLifecycle.Uri
