import CertLifecycle.Ip.Address
import CertLifecycle.Proofs.Collection.Traversal
import CertLifecycle.Proofs.Text.Digits
import CertLifecycle.Proofs.Text.Split
import Mathlib.Data.List.TakeWhile

/-!
Every address is read back from its canonical text. The texts of the two versions stay apart, since
only one of them has dots. Main results: `V4.parse?_text`, `V6.parse?_text`, `Address.parse?_text` and
`Address.parse?_canonicalText`.
-/

namespace CertLifecycle.Ip

open Collection (mapM_read_write)
open Text (natChars pieces join cutAt? nat?_natChars natChars_ne_nil not_mem_natChars pieces_join
  pieces_of_not_mem pieces_append_separator cutAt?_append cutAt?_eq_none_iff no_double_separator mem_join)

namespace V4

theorem octet?_natChars (octet : UInt8) : octet? (natChars 10 octet.toNat) = some octet := by
  have bound := octet.toNat_lt
  have short : (natChars 10 octet.toNat).length ≤ 3 :=
    (Text.length_natChars_le_iff (by decide) (by decide)).mpr (by omega)
  -- A leading zero would be a whole text of one digit.
  have lead : ¬((natChars 10 octet.toNat).length > 1 ∧
      (natChars 10 octet.toNat).head? = some '0') := by
    rintro ⟨long, zero⟩
    have digit : ¬octet.toNat < 10 ^ 1 := by
      rw [← Text.length_natChars_le_iff (by decide) (by decide)]
      omega
    exact Text.head?_natChars_ne_zero (by decide) (by omega) zero
  rw [octet?, if_neg (not_or.mpr ⟨by omega, lead⟩), nat?_natChars (by decide) (by decide)]
  simp [bound]

/-- An IPv4 address is read back from its dotted text. -/
theorem parse?_text (ip : V4) : parse? ip.text = some ip := by
  have clean : ∀ part ∈ ip.octets.map fun octet => natChars 10 octet.toNat, '.' ∉ part := by
    intro part member
    obtain ⟨octet, _, rfl⟩ := List.mem_map.mp member
    exact not_mem_natChars (by decide) (by decide) (by decide) _
  have octets : (ip.octets.map fun octet => natChars 10 octet.toNat).mapM octet? =
      pure ip.octets := mapM_read_write fun octet _ => octet?_natChars octet
  rw [parse?, text, pieces_join (by simp [V4.octets]) clean, octets]
  rfl

theorem parse?_of_no_dot {cs : List Char} (clean : '.' ∉ cs) : parse? cs = none := by
  rw [parse?, pieces_of_not_mem clean]
  cases value : octet? cs <;> simp [value, ofOctets?]

theorem parse?_of_colon (cs : List Char) : parse? (':' :: cs) = none := by
  have refused (rest : List Char) : octet? (':' :: rest) = none := by
    rw [octet?]
    split
    next => rfl
    next => rfl
  rw [parse?, pieces, if_neg (by decide)]
  cases pieces '.' cs with
  | nil => rw [List.mapM_cons, refused]; rfl
  | cons piece others => rw [List.mapM_cons, refused]; rfl

theorem no_colon_in_text (ip : V4) : ':' ∉ ip.text := by
  intro member
  rcases mem_join member with mark | ⟨part, known, inside⟩
  · exact absurd mark (by decide)
  · obtain ⟨octet, _, rfl⟩ := List.mem_map.mp known
    exact not_mem_natChars (by decide) (by decide) (by decide) _ inside

end V4

namespace V6

theorem group?_natChars (group : UInt16) : group? (natChars 16 group.toNat) = some group := by
  have bound := group.toNat_lt
  have short : (natChars 16 group.toNat).length ≤ 4 :=
    (Text.length_natChars_le_iff (by decide) (by decide)).mpr (by omega)
  rw [group?, if_neg (by omega), nat?_natChars (by decide) (by decide)]
  simp

theorem no_dot_in_group (group : UInt16) : '.' ∉ natChars 16 group.toNat :=
  not_mem_natChars (by decide) (by decide) (by decide) _

theorem no_colon_in_group (group : UInt16) : ':' ∉ natChars 16 group.toNat :=
  not_mem_natChars (by decide) (by decide) (by decide) _

theorem dottedGroups?_of_no_dot {cs : List Char} (clean : '.' ∉ cs) : dottedGroups? cs = none := by
  rw [dottedGroups?, V4.parse?_of_no_dot clean]
  rfl

theorem groupsFrom?_natChars (groups : List UInt16) :
    groupsFrom? (groups.map fun group => natChars 16 group.toNat) = some groups := by
  induction groups with
  | nil => rfl
  | cons first rest ih =>
    cases rest with
    | nil =>
      rw [List.map_cons, List.map_nil, groupsFrom?, dottedGroups?_of_no_dot (no_dot_in_group first),
        group?_natChars]
      rfl
    | cons second later =>
      rw [List.map_cons] at ih
      rw [List.map_cons, List.map_cons, groupsFrom?, group?_natChars, ih]
      · rfl
      · exact List.cons_ne_nil _ _

theorem no_colon_in_groups (groups : List UInt16) :
    ∀ part ∈ groups.map fun group => natChars 16 group.toNat, ':' ∉ part := by
  intro part member
  obtain ⟨group, _, rfl⟩ := List.mem_map.mp member
  exact no_colon_in_group group

theorem pieces_groupsText {groups : List UInt16} (filled : groups ≠ []) :
    pieces ':' (groupsText groups) = groups.map fun group => natChars 16 group.toNat :=
  pieces_join (by simpa using filled) (no_colon_in_groups groups)

theorem no_gap_in_groupsText (groups : List UInt16) : ¬[':', ':'] <:+: groupsText groups ++ [':'] := by
  refine no_double_separator (fun part member => ?_) (no_colon_in_groups groups)
  obtain ⟨group, _, rfl⟩ := List.mem_map.mp member
  exact natChars_ne_nil 16 _

theorem groupsText_ne_nil {groups : List UInt16} (filled : groups ≠ []) : groupsText groups ≠ [] := by
  obtain ⟨first, rest, rfl⟩ := List.exists_cons_of_ne_nil filled
  intro empty
  have starts : natChars 16 first.toNat <+: groupsText (first :: rest) := Text.prefix_join _ _ _
  rw [empty, List.prefix_nil] at starts
  exact natChars_ne_nil 16 _ starts

/-- Both sides of a gap are read back; either may be empty. -/
theorem front?_groupsText (groups : List UInt16) : front? (groupsText groups) = some groups := by
  by_cases filled : groups = []
  · subst filled
    rfl
  · rw [front?, if_neg (by simpa using groupsText_ne_nil filled), pieces_groupsText filled]
    exact mapM_read_write fun group _ => group?_natChars group

theorem side?_groupsText (groups : List UInt16) : side? (groupsText groups) = some groups := by
  by_cases filled : groups = []
  · subst filled
    rfl
  · rw [side?, if_neg (by simpa using groupsText_ne_nil filled), pieces_groupsText filled,
      groupsFrom?_natChars]

/-- The run that is found is a run of zeros at the place where it was found. -/
theorem longestZeroRun_spec (groups : List UInt16) :
    ∃ front back, groups = front ++ List.replicate (longestZeroRun groups).2 0 ++ back ∧
      front.length = (longestZeroRun groups).1 := by
  induction groups with
  | nil => exact ⟨[], [], rfl, rfl⟩
  | cons group rest ih =>
    obtain ⟨front, back, whole, place⟩ := ih
    rw [longestZeroRun]
    dsimp only
    split
    next =>
      have zeros : (group :: rest).takeWhile (· == 0) =
          List.replicate ((group :: rest).takeWhile (· == 0)).length 0 := by
        refine List.eq_replicate_iff.mpr ⟨rfl, fun x member => ?_⟩
        simpa using List.mem_takeWhile_imp member
      refine ⟨[], (group :: rest).dropWhile (· == 0), ?_, rfl⟩
      rw [← zeros, List.nil_append, List.takeWhile_append_dropWhile]
    next => exact ⟨group :: front, back, congrArg (group :: ·) whole, congrArg (· + 1) place⟩

theorem ofGroups?_groups (ip : V6) : ofGroups? ip.groups = some ip := by
  rw [ofGroups?, dif_pos ip.length_groups]

/-- A text without a gap writes all groups. -/
theorem parse?_groupsText {groups : List UInt16} (filled : groups ≠ []) :
    parse? (groupsText groups) = ofGroups? groups := by
  have absent : cutAt? [':', ':'] (groupsText groups) = none := by
    rw [cutAt?_eq_none_iff]
    exact fun gap => no_gap_in_groupsText groups (gap.trans (List.prefix_append _ _).isInfix)
  rw [parse?, absent]
  dsimp only
  rw [pieces_groupsText filled, groupsFrom?_natChars]
  rfl

/-- A gap stands for the zeros that are missing. -/
theorem parse?_gap {front back : List UInt16} {length : Nat} (positive : 0 < length)
    (eight : front.length + length + back.length = 8) :
    parse? (groupsText front ++ [':', ':'] ++ groupsText back) =
      ofGroups? (front ++ List.replicate length 0 ++ back) := by
  have cut : cutAt? [':', ':'] (groupsText front ++ [':', ':'] ++ groupsText back) =
      some (groupsText front, groupsText back) := cutAt?_append (no_gap_in_groupsText front) _
  have missing : 8 - front.length - back.length = length := by omega
  rw [parse?, cut]
  dsimp only
  rw [front?_groupsText, side?_groupsText]
  simp only [Option.bind_eq_bind, Option.bind_some]
  rw [if_pos (by omega), missing]

/-- An IPv6 address is read back from its compressed text. -/
theorem parse?_text (ip : V6) : parse? ip.text = some ip := by
  have eight := ip.length_groups
  rw [text]
  dsimp only
  split
  next gap =>
    -- What stands before and behind the run is written, and the run is the gap between the two.
    obtain ⟨front, back, whole, place⟩ := longestZeroRun_spec ip.groups
    generalize longestZeroRun ip.groups = run at whole place gap ⊢
    have left : ip.groups.take run.1 = front := by
      rw [whole, List.append_assoc, ← place, List.take_left]
    have right : ip.groups.drop (run.1 + run.2) = back := by
      rw [whole, ← place]
      exact List.drop_left' (by simp)
    have counted : front.length + run.2 + back.length = 8 := by
      rw [← eight, whole]
      simp [Nat.add_assoc]
    rw [left, right, parse?_gap (by omega) counted, ← whole]
    exact ofGroups?_groups ip
  next =>
    have filled : ip.groups ≠ [] := List.ne_nil_of_length_pos (by omega)
    rw [parse?_groupsText filled]
    exact ofGroups?_groups ip

-- Of two runs of the same length the first is left out.
example : V6.text ⟨[0x2001, 0xdb8, 0, 0, 1, 0, 0, 1], rfl⟩ = "2001:db8::1:0:0:1".toList := by decide

theorem no_dot_in_text (ip : V6) : '.' ∉ ip.text := by
  have groups (groups : List UInt16) : '.' ∉ groupsText groups := by
    intro member
    rcases mem_join member with mark | ⟨part, known, inside⟩
    · exact absurd mark (by decide)
    · obtain ⟨group, _, rfl⟩ := List.mem_map.mp known
      exact no_dot_in_group group inside
  rw [text]
  dsimp only
  split
  next => simp [groups]
  next => exact groups ip.groups

theorem toNat_groupOf (high low : UInt8) :
    (groupOf high low).toNat = high.toNat * 256 + low.toNat := by
  have left := high.toNat_lt
  have right := low.toNat_lt
  have shifted : (high.toUInt16 <<< 8).toNat = high.toNat * 256 := by
    rw [UInt16.toNat_shiftLeft]
    simp [Nat.shiftLeft_eq]
    omega
  have joined := Nat.shiftLeft_add_eq_or_of_lt right high.toNat
  rw [Nat.shiftLeft_eq] at joined
  rw [groupOf, UInt16.toNat_or, shifted, UInt8.toNat_toUInt16, joined]

theorem groupOf_groupOctets (group : UInt16) :
    groupOf (group >>> 8).toUInt8 group.toUInt8 = group := by
  have bound := group.toNat_lt
  apply UInt16.toNat_inj.mp
  rw [toNat_groupOf, UInt16.toNat_toUInt8, UInt16.toNat_toUInt8, UInt16.toNat_shiftRight]
  simp [Nat.shiftRight_eq_div_pow]
  omega

theorem groupOctets_groupOf (high low : UInt8) : groupOctets (groupOf high low) = [high, low] := by
  have left := high.toNat_lt
  have right := low.toNat_lt
  have upper : (groupOf high low >>> 8).toUInt8 = high := by
    apply UInt8.toNat_inj.mp
    rw [UInt16.toNat_toUInt8, UInt16.toNat_shiftRight, toNat_groupOf]
    simp [Nat.shiftRight_eq_div_pow]
    omega
  have lower : (groupOf high low).toUInt8 = low := by
    apply UInt8.toNat_inj.mp
    rw [UInt16.toNat_toUInt8, toNat_groupOf]
    omega
  rw [groupOctets, upper, lower]

theorem mapped?_eq_some_iff {ip : V6} {carried : V4} :
    ip.mapped? = some carried ↔ ip = ofV4 carried := by
  constructor
  · intro found
    obtain ⟨groups, eight⟩ := ip
    unfold mapped? at found
    dsimp only at found
    split at found
    next _ high low =>
      simp only [groupOctets, List.cons_append, List.nil_append, V4.ofOctets?,
        Option.some.injEq] at found
      subst found
      simp only [ofV4, groupOf_groupOctets]
    next => exact absurd found (by simp)
  · rintro rfl
    simp only [mapped?, ofV4, groupOctets_groupOf]
    rfl

/-- The dotted text behind the gap stands for the last two groups. -/
theorem parse?_carrier (ip : V4) : parse? ("::ffff:".toList ++ ip.text) = some (ofV4 ip) := by
  have nothing : ¬[':', ':'] <:+: [] ++ [':', ':'].dropLast := by decide
  have cut : cutAt? [':', ':'] ("::ffff:".toList ++ ip.text) = some ([], "ffff:".toList ++ ip.text) :=
    cutAt?_append nothing ("ffff:".toList ++ ip.text)
  have parts : pieces ':' ("ffff:".toList ++ ip.text) = ["ffff".toList, ip.text] := by
    have clean : ':' ∉ "ffff".toList := by decide
    have behind := pieces_append_separator clean ip.text
    rwa [pieces_of_not_mem ip.no_colon_in_text] at behind
  have back : side? ("ffff:".toList ++ ip.text) =
      some [0xffff, groupOf ip.a ip.b, groupOf ip.c ip.d] := by
    rw [side?, if_neg (by simp), parts, groupsFrom?, groupsFrom?, dottedGroups?, V4.parse?_text]
    · rfl
    · simp
  rw [parse?, cut]
  dsimp only
  rw [back]
  rfl

end V6

namespace Address

/-- Two addresses are the same host: they are equal, or one is an IPv4 address and the other the IPv6
address that carries it. -/
inductive Same : Address → Address → Prop where
  | refl (ip : Address) : Same ip ip
  | carrier (ip : V4) : Same (.v6 (.ofV4 ip)) (.v4 ip)
  | carried (ip : V4) : Same (.v4 ip) (.v6 (.ofV4 ip))

theorem canonical_carrier (ip : V4) : (Address.v6 (.ofV4 ip)).canonical = .v4 ip := by
  rw [canonical, V6.mapped?_eq_some_iff.mpr rfl]
  rfl

theorem canonical_of_not_mapped {ip : V6} (plain : ip.mapped? = none) :
    (Address.v6 ip).canonical = .v6 ip := by
  rw [canonical, plain]
  rfl

/-- An address carries an IPv4 address or is canonical itself. -/
theorem carrier_or_canonical (ip : Address) :
    (∃ carried, ip = .v6 (.ofV4 carried)) ∨ ip.canonical = ip := by
  cases ip with
  | v4 ip => exact .inr rfl
  | v6 ip =>
    cases mapped : ip.mapped? with
    | none => exact .inr (canonical_of_not_mapped mapped)
    | some carried => exact .inl ⟨carried, congrArg v6 (V6.mapped?_eq_some_iff.mp mapped)⟩

/-- Canonical forms identify the IPv4 addresses with their carriers and no other addresses. -/
theorem canonical_eq_iff {first second : Address} :
    first.canonical = second.canonical ↔ Same first second := by
  constructor
  · intro equal
    rcases carrier_or_canonical first with ⟨a, rfl⟩ | plain <;>
      rcases carrier_or_canonical second with ⟨b, rfl⟩ | plain'
    · rw [canonical_carrier, canonical_carrier, v4.injEq] at equal
      exact equal ▸ .refl _
    · rw [canonical_carrier, plain'] at equal
      exact equal ▸ .carrier a
    · rw [canonical_carrier, plain] at equal
      exact equal ▸ .carried b
    · rw [plain, plain'] at equal
      exact equal ▸ .refl _
  · rintro (_ | ip | ip)
    · rfl
    · exact canonical_carrier ip
    · exact (canonical_carrier ip).symm

theorem parse?_text_of_canonical {ip : Address} (plain : ip.canonical = ip) :
    parse? ip.text = some ip := by
  cases ip with
  | v4 ip =>
    rw [text, parse?, String.toList_ofList, V4.parse?_text]
    rfl
  | v6 ip =>
    have whole : ip.mapped? = none := by
      cases mapped : ip.mapped? with
      | none => rfl
      | some carried =>
        rw [V6.mapped?_eq_some_iff.mp mapped, canonical_carrier] at plain
        exact absurd plain (by simp)
    rw [text, whole, parse?, String.toList_ofList, V4.parse?_of_no_dot (V6.no_dot_in_text ip),
      V6.parse?_text]
    rfl

/-- Every address is read back from its text, a carrier from the dotted form. -/
theorem parse?_text (ip : Address) : parse? ip.text = some ip := by
  rcases carrier_or_canonical ip with ⟨carried, rfl⟩ | plain
  · have dotted : "::ffff:".toList ++ carried.text = ':' :: (":ffff:".toList ++ carried.text) := rfl
    rw [text, V6.mapped?_eq_some_iff.mpr rfl, parse?, String.toList_ofList, V6.parse?_carrier, dotted,
      V4.parse?_of_colon]
    rfl
  · exact parse?_text_of_canonical plain

theorem canonical_canonical (ip : Address) : ip.canonical.canonical = ip.canonical := by
  rcases carrier_or_canonical ip with ⟨carried, rfl⟩ | plain
  · rw [canonical_carrier]
    rfl
  · rw [plain, plain]

/-- The canonical text of an address reads as its canonical form. -/
theorem parse?_canonicalText (ip : Address) : parse? ip.canonicalText = some ip.canonical :=
  parse?_text_of_canonical (canonical_canonical ip)

theorem normalize_of_parse {s : String} {ip : Address} (reads : parse? s = some ip) :
    normalize s = ip.canonicalText := by
  rw [normalize, reads]
  rfl

/-- A text has the normal form of an address exactly if it reads as the same host. A text that is no
address keeps its form, which no address has. -/
theorem canonicalText_eq_normalize_iff {ip : Address} {s : String} :
    ip.canonicalText = normalize s ↔ ∃ other, parse? s = some other ∧ Same ip other := by
  cases reads : parse? s with
  | none =>
    rw [normalize, reads]
    refine iff_of_false (fun equal => ?_) (by simp)
    change ip.canonicalText = s at equal
    rw [← equal, parse?_canonicalText] at reads
    exact absurd reads (by simp)
  | some other =>
    rw [normalize_of_parse reads]
    constructor
    · intro equal
      have same := parse?_canonicalText ip
      rw [equal, parse?_canonicalText, Option.some.injEq] at same
      exact ⟨other, rfl, canonical_eq_iff.mp same.symm⟩
    · rintro ⟨_, ⟨⟩, same⟩
      rw [canonicalText, canonicalText, canonical_eq_iff.mpr same]

end Address

end CertLifecycle.Ip
