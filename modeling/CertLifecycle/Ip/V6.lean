import CertLifecycle.Ip.V4

/-!
IPv6 addresses: eight groups of sixteen bits. The text may leave out one run of zero groups, and may
end in a dotted IPv4 address that stands for the last two groups. The compressed form leaves out the
longest run of at least two zero groups, the first of equal runs.
-/

namespace CertLifecycle.Ip

/-- An IPv6 address: eight groups, the most significant first. -/
structure V6 where
  groups : List UInt16
  length_groups : groups.length = 8
  deriving DecidableEq

namespace V6

/-- The address with these groups, if there are eight. -/
def ofGroups? (groups : List UInt16) : Option V6 :=
  if eight : groups.length = 8 then some ⟨groups, eight⟩ else none

/-- The group made of two octets. -/
def groupOf (high low : UInt8) : UInt16 :=
  high.toUInt16 <<< 8 ||| low.toUInt16

/-- The two octets of a group. -/
def groupOctets (group : UInt16) : List UInt8 :=
  [(group >>> 8).toUInt8, group.toUInt8]

/-- The sixteen octets in order. -/
def octets (ip : V6) : List UInt8 :=
  ip.groups.flatMap groupOctets

/-- The groups that pairs of octets make. -/
def pairOctets? : List UInt8 → Option (List UInt16)
  | [] => some []
  | [_] => none
  | high :: low :: rest => (pairOctets? rest).map (groupOf high low :: ·)

/-- The address with these octets, if there are sixteen. -/
def ofOctets? (octets : List UInt8) : Option V6 := do
  ofGroups? (← pairOctets? octets)

/-- One group of a text: one to four hexadecimal digits. -/
def group? (cs : List Char) : Option UInt16 :=
  if cs.length > 4 then none
  else (Text.nat? 16 cs).map UInt16.ofNat

/-- The two groups that a dotted IPv4 address stands for. -/
def dottedGroups? (cs : List Char) : Option (List UInt16) := do
  let ip ← V4.parse? cs
  some [groupOf ip.a ip.b, groupOf ip.c ip.d]

/-- Reads groups between colons; a dotted IPv4 address may end them. -/
def groupsFrom? : List (List Char) → Option (List UInt16)
  | [] => some []
  | [last] => (dottedGroups? last).or ((group? last).map ([·]))
  | first :: rest => do some ((← group? first) :: (← groupsFrom? rest))

/-- Reads the groups on one side of the gap; there may be none. -/
def side? (cs : List Char) : Option (List UInt16) :=
  if cs.isEmpty then some [] else groupsFrom? (Text.pieces ':' cs)

/-- Reads the groups before the gap, where no dotted address is allowed. -/
def front? (cs : List Char) : Option (List UInt16) :=
  if cs.isEmpty then some [] else (Text.pieces ':' cs).mapM group?

/-- Reads an address: eight groups, or fewer with one gap that stands for the missing zeros. -/
def parse? (cs : List Char) : Option V6 :=
  match Text.cutAt? [':', ':'] cs with
  | none => do ofGroups? (← groupsFrom? (Text.pieces ':' cs))
  | some (before, after) => do
    let front ← front? before
    let back ← side? after
    -- The gap stands for at least one group.
    if front.length + back.length < 8 then
      ofGroups? (front ++ List.replicate (8 - front.length - back.length) 0 ++ back)
    else none

/-- Where the longest run of zero groups starts and how long it is; the first of equal runs. -/
def longestZeroRun : List UInt16 → Nat × Nat
  | [] => (0, 0)
  | group :: rest =>
    let here := ((group :: rest).takeWhile (· == 0)).length
    let (start, length) := longestZeroRun rest
    -- Of equal runs the one that starts here wins, which is the first.
    if length ≤ here then (0, here) else (start + 1, length)

/-- Groups in lower-case hexadecimal with colons between them. -/
def groupsText (groups : List UInt16) : List Char :=
  Text.join [':'] (groups.map fun group => Text.natChars 16 group.toNat)

def text (ip : V6) : List Char :=
  let (start, length) := longestZeroRun ip.groups
  if 2 ≤ length then
    groupsText (ip.groups.take start) ++ [':', ':'] ++ groupsText (ip.groups.drop (start + length))
  else groupsText ip.groups

/-- The address that carries an IPv4 address. -/
def ofV4 (ip : V4) : V6 :=
  ⟨[0, 0, 0, 0, 0, 0xffff, groupOf ip.a ip.b, groupOf ip.c ip.d], rfl⟩

/-- The IPv4 address that an address carries. -/
def mapped? (ip : V6) : Option V4 :=
  match ip.groups with
  | [0, 0, 0, 0, 0, 0xffff, high, low] => V4.ofOctets? (groupOctets high ++ groupOctets low)
  | _ => none

end V6

end CertLifecycle.Ip
