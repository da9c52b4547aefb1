import CertLifecycle.Proofs.Uri.Host

/-!
The text of an authority that was read is read again, whatever follows it: user name and password hold no at
sign, the host leaves the colon before the port alone, and the port is a number that is small enough. Main
result: `Authority.Readable.again`.
-/

namespace CertLifecycle.Uri

open Host (BeginsPort Rereads)

theorem inside_of_not_escaped {c : Char} (kept : escapesInUserInfo c = false) : Inside c ∧ c ≠ '@' := by
  have differs (d : Char) (escaped : escapesInUserInfo d = true) : c ≠ d :=
    ne_of_apply_ne escapesInUserInfo (by simp [kept, escaped])
  have low : 0x20 ≤ c.toNat := by
    simp only [escapesInUserInfo, escapesInPath, escapesInFragment, escapesControls, Bool.or_eq_false_iff,
      decide_eq_false_iff_not] at kept
    omega
  have space : c.toNat ≠ 0x20 := by
    intro code
    refine differs ' ' (by decide) ?_
    rw [← Char.ofNat_toNat c, code]
  refine ⟨⟨by omega, ?_, ?_⟩, differs '@' (by decide)⟩
  · simp [isSlash, differs '/' (by decide), differs '\\' (by decide)]
  · simp [endsPath, differs '?' (by decide), differs '#' (by decide)]

/-- User name and password, as they are written, stand in front of the last at sign. -/
theorem inside_of_userInfoText {raw info : List Char} (written : userInfoText raw = some info) :
    info ≠ [] ∧ ∀ c ∈ info, Inside c ∧ c ≠ '@' := by
  have part {cs : List Char} {c : Char} (member : c ∈ escape escapesInUserInfo cs) :
      Inside c ∧ c ≠ '@' :=
    inside_of_not_escaped (not_escapes_of_mem_escape rfl member)
  unfold userInfoText at written
  extract_lets name password text at written
  split at written
  next => cases written
  next filled =>
    obtain rfl := Option.some.inj written
    refine ⟨by simpa using filled, fun c member => ?_⟩
    simp only [text] at member
    split at member
    next => exact part member
    next =>
      rcases List.mem_append.mp member with front | password
      · rcases List.mem_append.mp front with name | colon
        · exact part name
        · rw [List.mem_singleton.mp colon]
          exact ⟨⟨by decide, by decide, by decide⟩, by decide⟩
      · exact part password

theorem cutUserInfo_of_no_mark {cs : List Char} (clean : '@' ∉ cs) : cutUserInfo cs = (none, cs) := by
  simp [cutUserInfo, clean]

theorem cutUserInfo_append {info location : List Char} (clean : '@' ∉ location) :
    cutUserInfo (info ++ '@' :: location) = (some info, location) := by
  have after : ((info ++ '@' :: location).reverse.takeWhile (· != '@')).reverse = location := by
    have kept : ∀ c ∈ location.reverse, (c != '@') = true := by
      intro c member
      rw [bne_iff_ne]
      rintro rfl
      exact clean (List.mem_reverse.mp member)
    simp [List.takeWhile_append_of_pos kept]
  have count : (info ++ '@' :: location).length - location.length - 1 = info.length := by
    rw [List.length_append, List.length_cons]
    omega
  rw [cutUserInfo, if_pos (by simp), after]
  dsimp only
  rw [count, List.take_left]

namespace Authority

/-- The text of the port with its colon. -/
def portText (authority : Authority) : List Char :=
  (authority.port.map fun port => ':' :: Text.natChars 10 port).getD []

theorem beginsPort_portText (authority : Authority) : BeginsPort authority.portText := by
  cases port : authority.port with
  | none => exact .inl (by simp [portText, port])
  | some number => exact .inr ⟨_, by simp [portText, port]; rfl⟩

theorem port?_lt {implied : Option Nat} {cs rest : List Char} {number : Nat}
    (reads : port? implied cs = some (some number, rest)) : number < 0x10000 := by
  unfold port? at reads
  split at reads
  next digits =>
    dsimp only at reads
    split at reads
    next => cases reads
    next =>
      split at reads
      next => cases reads
      next =>
        obtain ⟨found, _, bounded⟩ := Option.bind_eq_some_iff.mp reads
        split at bounded
        next small =>
          obtain ⟨kept, _⟩ := Prod.mk.inj (Option.some.inj bounded)
          split at kept
          next => cases kept
          next => exact Option.some.inj kept ▸ small
        next => cases bounded
  next => cases reads

theorem port?_portText (implied : Option Nat) {authority : Authority}
    (small : ∀ number, authority.port = some number → number < 0x10000) :
    (port? implied authority.portText).isSome := by
  cases port : authority.port with
  | none => simp [portText, port, port?]
  | some number =>
    have digits : ∀ c ∈ Text.natChars 10 number, c.isDigit = true := fun c => Text.isDigit_of_mem_natChars
    have taken : (Text.natChars 10 number).takeWhile Char.isDigit = Text.natChars 10 number :=
      List.takeWhile_eq_self_iff.mpr digits
    have dropped : (Text.natChars 10 number).dropWhile Char.isDigit = [] :=
      List.dropWhile_eq_nil_iff.mpr digits
    have reads := Text.nat?_natChars (by decide : 1 < 10) (by decide) number
    simp [portText, port, port?, taken, dropped, Text.natChars_ne_nil, reads, small number port]

end Authority

/-- The port that the schemes of a kind imply. -/
def impliedPort : SchemeKind → Option Nat
  | .web port => some port
  | _ => none

variable [Idna]

/-- The host reader for the schemes of a kind. -/
def readHost : SchemeKind → List Char → Option Host
  | .other => Host.ofName?
  | _ => Host.ofDomain?

/-- An authority is put together from user name, host and port once it is cut into them. -/
theorem authority?_of_cuts {kind : SchemeKind} {cs after : List Char} {rawInfo : Option (List Char)}
    {location rawHost rawPort : List Char} (cut : cutUserInfo cs = (rawInfo, location))
    (parts : cutPort false location = (rawHost, rawPort))
    (followed : ¬(rawInfo = some [] ∧ location.isEmpty ∧ !after.isEmpty)) :
    authority? kind cs after = (readHost kind rawHost).bind fun host =>
      if host = .name [] ∧ ((rawInfo.bind userInfoText).isSome ∨ !rawPort.isEmpty) then none
      else (port? (impliedPort kind) rawPort).map fun port =>
        (⟨rawInfo.bind userInfoText, host, port.1⟩, port.2) := by
  unfold authority?
  extract_lets special implied
  rw [cut]
  dsimp only
  rw [if_neg followed, parts]
  dsimp only
  have built {α β : Type} (read : Option α) (make : α → β) :
      (read.bind fun value => some (make value)) = read.map make :=
    Option.map_eq_bind.symm
  cases kind <;> simp [special, implied, readHost, impliedPort, built]

namespace Authority

/-- What makes the text of an authority readable. -/
structure Readable (kind : SchemeKind) (authority : Authority) : Prop where
  userInfo : ∀ info, authority.userInfo = some info → info ≠ [] ∧ ∀ c ∈ info, Inside c ∧ c ≠ '@'
  host : authority.host.Rereads (readHost kind)
  port : ∀ number, authority.port = some number → number < 0x10000
  bare : authority.host = .name [] → authority.userInfo = none ∧ authority.port = none

theorem readable_of_authority? [LawfulIdna] {kind : SchemeKind} {cs after early : List Char}
    {authority : Authority} (reads : authority? kind cs after = some (authority, early)) :
    authority.Readable kind := by
  rcases cut : cutUserInfo cs with ⟨rawInfo, location⟩
  rcases parts : cutPort false location with ⟨rawHost, rawPort⟩
  have followed : ¬(rawInfo = some [] ∧ location.isEmpty ∧ !after.isEmpty) := by
    intro lone
    simp [authority?, cut, lone] at reads
  rw [authority?_of_cuts cut parts followed] at reads
  obtain ⟨host, found, rest⟩ := Option.bind_eq_some_iff.mp reads
  split at rest
  next => cases rest
  next named =>
    obtain ⟨⟨port, left⟩, number, built⟩ := Option.map_eq_some_iff.mp rest
    obtain ⟨rfl, rfl⟩ := Prod.mk.inj built
    refine ⟨?_, ?_, ?_, ?_⟩
    · intro info written
      obtain ⟨raw, _, text⟩ := Option.bind_eq_some_iff.mp written
      exact inside_of_userInfoText text
    · cases kind with
      | other => exact Host.rereads_of_ofName? found
      | file => exact Host.rereads_of_ofDomain? found
      | web => exact Host.rereads_of_ofDomain? found
    · rintro n rfl
      exact port?_lt number
    · rintro rfl
      -- An empty host is accepted only without user name and port, and no port is read from nothing.
      obtain ⟨anonymous, rfl⟩ : rawInfo.bind userInfoText = none ∧ rawPort = [] := by
        simpa using named
      obtain ⟨rfl, _⟩ := Prod.mk.inj (Option.some.inj number)
      exact ⟨anonymous, rfl⟩

theorem Readable.inside {kind : SchemeKind} {authority : Authority} (readable : authority.Readable kind)
    {c : Char} (member : c ∈ authority.text) : Inside c := by
  rw [text, List.mem_append, List.mem_append] at member
  rcases member with (info | host) | port
  · cases written : authority.userInfo with
    | none => simp [written] at info
    | some raw =>
      rw [written, Option.map_some, Option.getD_some, List.mem_append, List.mem_singleton] at info
      rcases info with inside | rfl
      · exact ((readable.userInfo raw written).2 c inside).1
      · exact ⟨by decide, by decide, by decide⟩
  · exact (readable.host.inside c host).1
  · cases written : authority.port with
    | none => simp [written] at port
    | some number =>
      rw [written, Option.map_some, Option.getD_some, List.mem_cons] at port
      rcases port with rfl | digit
      · exact ⟨by decide, by decide, by decide⟩
      · exact (Host.isNameChar_of_digit?
          (Text.digit?_isSome_of_mem_natChars (by decide) (by decide) digit)).inside

theorem no_mark_in_location {kind : SchemeKind} {authority : Authority}
    (readable : authority.Readable kind) : '@' ∉ authority.host.text ++ authority.portText := by
  intro member
  rcases List.mem_append.mp member with host | port
  · exact (readable.host.inside '@' host).2 rfl
  · cases written : authority.port with
    | none => simp [portText, written] at port
    | some number =>
      rw [portText, written, Option.map_some, Option.getD_some, List.mem_cons] at port
      rcases port with colon | digit
      · exact absurd colon (by decide)
      · exact absurd (Text.isDigit_of_mem_natChars digit) (by decide)

/-- The text of a readable authority is read again, whatever follows it. -/
theorem Readable.again {kind : SchemeKind} {authority : Authority} (readable : authority.Readable kind)
    (after : List Char) : (authority? kind authority.text after).isSome := by
  obtain ⟨other, reads, empty⟩ := readable.host.again
  obtain ⟨port, number⟩ := Option.isSome_iff_exists.mp
    (port?_portText (impliedPort kind) readable.port)
  have parts := readable.host.apart _ authority.beginsPort_portText
  have clean := no_mark_in_location readable
  have shape : ∃ rawInfo, cutUserInfo authority.text =
      (rawInfo, authority.host.text ++ authority.portText) ∧ rawInfo ≠ some [] ∧
        (authority.userInfo = none → rawInfo = none) := by
    cases written : authority.userInfo with
    | none =>
      refine ⟨none, ?_, by simp, fun _ => rfl⟩
      rw [← cutUserInfo_of_no_mark clean, text, written]
      rfl
    | some info =>
      refine ⟨some info, ?_, ?_, by simp⟩
      · rw [← cutUserInfo_append clean, text, written]
        simp [portText]
      · simpa using (readable.userInfo info written).1
  obtain ⟨rawInfo, cut, named, anonymous⟩ := shape
  have accepted : ¬(other = .name [] ∧
      ((rawInfo.bind userInfoText).isSome ∨ !authority.portText.isEmpty)) := by
    rintro ⟨nameless, rest⟩
    obtain ⟨nobody, nowhere⟩ := readable.bare (empty nameless)
    simp [anonymous nobody, portText, nowhere] at rest
  rw [authority?_of_cuts cut parts fun lone => named lone.1, reads, Option.bind_some, if_neg accepted,
    number]
  rfl

end Authority

end CertLifecycle.Uri
