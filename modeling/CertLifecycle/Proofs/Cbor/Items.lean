import CertLifecycle.Cbor.Reader
import CertLifecycle.Cbor.Writer
import CertLifecycle.Proofs.Cbor.Head
import CertLifecycle.Proofs.Collection.Traversal

/-!
Items of CBOR are read back. `Reader.Answers` says what a reader makes of the bytes of an item, whatever
follows them; a reader of items answers what it is written from, or fails where one of its parts does. Main
results: `text_answers`, `list_answers` and `record_answers`.
-/

namespace CertLifecycle.Cbor

open Collection (mapM_eq_self_iff)

/-- Bytes whose number can be written in a head. -/
def Fits (bytes : List UInt8) : Prop :=
  bytes.length < 2 ^ 64

theorem Fits.of_append_left {front back : List UInt8} (fits : Fits (front ++ back)) : Fits front := by
  rw [Fits, List.length_append] at fits
  rw [Fits]
  omega

theorem Fits.of_append_right {front back : List UInt8} (fits : Fits (front ++ back)) : Fits back := by
  rw [Fits, List.length_append] at fits
  rw [Fits]
  omega

theorem Fits.of_mem_flatMap {α : Type} {write : α → List UInt8} {items : List α}
    (fits : Fits (items.flatMap write)) {item : α} (member : item ∈ items) : Fits (write item) := by
  obtain ⟨front, back, rfl⟩ := List.append_of_mem member
  rw [List.flatMap_append, List.flatMap_cons] at fits
  exact fits.of_append_right.of_append_left

theorem Fits.of_mem_fields {fields : List (String × List UInt8)} (fits : Fits (ofFields fields))
    {name : String} {value : List UInt8} (member : (name, value) ∈ fields) : Fits value :=
  (fits.of_append_right.of_mem_flatMap member).of_append_right

theorem length_le_length_flatMap {α : Type} {write : α → List UInt8} {items : List α}
    (filled : ∀ item ∈ items, write item ≠ []) : items.length ≤ (items.flatMap write).length := by
  induction items with
  | nil => simp
  | cons item rest ih =>
    have later := ih fun other member => filled other (List.mem_cons_of_mem item member)
    have first := List.length_pos_iff.mpr (filled item List.mem_cons_self)
    rw [List.flatMap_cons, List.length_append, List.length_cons]
    omega

theorem headBytes_ne_nil (major n : Nat) : headBytes major n ≠ [] := by
  simp only [headBytes]
  split
  next => exact List.cons_ne_nil _ _
  next =>
    split
    next => exact List.cons_ne_nil _ _
    next =>
      split
      next => exact List.cons_ne_nil _ _
      next => split <;> exact List.cons_ne_nil _ _

theorem length_headBytes_le (major n : Nat) : (headBytes major n).length ≤ 9 := by
  simp only [headBytes]
  split
  next => simp
  next =>
    split
    next => simp [length_bigEndian]
    next =>
      split
      next => simp [length_bigEndian]
      next => split <;> simp [length_bigEndian]

theorem length_ofFields_concat_le (fields : List (String × List UInt8)) (name : String)
    (value : List UInt8) :
    (ofFields (fields ++ [(name, value)])).length ≤
      9 + (ofFields fields).length + (ofText name).length + value.length := by
  have count := length_headBytes_le 5 (fields ++ [(name, value)]).length
  simp only [ofFields, List.flatMap_append, List.flatMap_cons, List.flatMap_nil, List.append_nil,
    List.length_append] at count ⊢
  omega

theorem ofText_ne_nil (s : String) : ofText s ≠ [] := by
  simp [ofText, headBytes_ne_nil]

theorem ofFields_ne_nil (fields : List (String × List UInt8)) : ofFields fields ≠ [] := by
  simp [ofFields, headBytes_ne_nil]

namespace Reader

variable {α β : Type}

/-- What a reader makes of bytes: it takes them and no more and gives a value, or it fails. -/
def Answers (read : Reader α) (bytes : List UInt8) (answer : Option α) : Prop :=
  ∀ rest, read (bytes ++ rest) = answer.map fun value => (value, rest)

theorem bind_apply (read : Reader α) (next : α → Reader β) (bytes : List UInt8) :
    (read >>= next) bytes = (read bytes).bind fun result => next result.1 result.2 := rfl

theorem pure_apply (value : α) (bytes : List UInt8) :
    (pure value : Reader α) bytes = some (value, bytes) := rfl

theorem get_apply (bytes : List UInt8) : (get : Reader (List UInt8)) bytes = some (bytes, bytes) := rfl

theorem lift_apply (value? : Option α) (bytes : List UInt8) :
    (liftM value? : Reader α) bytes = value?.map fun value => (value, bytes) := by
  cases value? <;> rfl

/-- What a reader takes from the front of some bytes is determined by them. -/
theorem Answers.unique {read : Reader α} {bytes bytes' : List UInt8} {value value' : α}
    (reads : read.Answers bytes (some value)) (reads' : read.Answers bytes' (some value'))
    {rest rest' : List UInt8} (same : bytes ++ rest = bytes' ++ rest') : value = value' ∧ rest = rest' := by
  have first := reads rest
  rw [same, reads' rest', Option.map_some, Option.map_some, Option.some.injEq, Prod.mk.injEq] at first
  exact ⟨first.1.symm, first.2.symm⟩

theorem Answers.bind {read : Reader α} {next : α → Reader β} {front back : List UInt8} {value : α}
    {answer : Option β} (first : read.Answers front (some value))
    (second : (next value).Answers back answer) :
    (read >>= next).Answers (front ++ back) answer := by
  intro rest
  rw [bind_apply, List.append_assoc, first, Option.map_some, Option.bind_some]
  exact second rest

theorem Answers.map {read : Reader α} {bytes : List UInt8} {answer : Option α}
    (reads : read.Answers bytes answer) (f : α → Option β) :
    (read >>= fun value => (liftM (f value) : Reader β)).Answers bytes (answer.bind f) := by
  intro rest
  rw [bind_apply, reads]
  cases answer with
  | none => rfl
  | some value => simp only [Option.map_some, Option.bind_some, lift_apply]

theorem Answers.pure_map {read : Reader α} {bytes : List UInt8} {answer : Option α}
    (reads : read.Answers bytes answer) (f : α → β) :
    (read >>= fun value => (pure (f value) : Reader β)).Answers bytes (answer.map f) := by
  intro rest
  rw [bind_apply, reads]
  cases answer <;> rfl

theorem untaggedHead_of_head? {bytes rest : List UInt8} {found : Head}
    (read : head? bytes = some (found, rest)) (untagged : ∀ tag, found ≠ .tag tag) :
    untaggedHead bytes = some (found, rest) := by
  cases bytes with
  | nil => cases read
  | cons first more =>
    rw [untaggedHead, bind_apply, get_apply, Option.bind_some, headWithin, bind_apply, Reader.head, read,
      Option.bind_some]
    cases found with
    | tag tag => exact absurd rfl (untagged tag)
    | _ => rfl

theorem untaggedHead_answers {major n : Nat} (small : major < 6) (fits : n < 2 ^ 64) :
    untaggedHead.Answers (headBytes major n) (Head.of? major 0 (some n)) := by
  intro rest
  have read := head?_headBytes (show major < 7 by omega) fits rest
  interval_cases major <;> exact untaggedHead_of_head? read (by simp)

theorem take_answers {count : Nat} {bytes : List UInt8} (length : bytes.length = count) :
    (take count).Answers bytes (some bytes) :=
  takeBytes?_append length

theorem textAfter_answers (s : String) :
    (textAfter (some (Text.utf8 s).length)).Answers (Text.utf8 s) (some s) := by
  intro rest
  have chunk := take_answers (rfl : (Text.utf8 s).length = _) rest
  simp only [textAfter, chunks, bind_apply, chunk, Option.map_some, Option.bind_some, pure_apply,
    List.mapM_cons, List.mapM_nil, lift_apply, Text.ofUtf8?_utf8]
  simp

theorem text_answers {s : String} (fits : Fits (ofText s)) : text.Answers (ofText s) (some s) := by
  have length : (Text.utf8 s).length < 2 ^ 64 := fits.of_append_right
  refine (untaggedHead_answers (by decide) length).bind ?_
  exact textAfter_answers s

theorem shortText_answers {s : String} (fits : Fits (ofText s)) :
    shortText.Answers (ofText s) (if (Text.utf8 s).length ≤ shortLimit then some s else none) := by
  have length : (Text.utf8 s).length < 2 ^ 64 := fits.of_append_right
  refine (untaggedHead_answers (by decide) length).bind ?_
  intro rest
  dsimp only
  split
  next => exact textAfter_answers s rest
  next => rfl

/-- A key is read back if it is short. -/
theorem key_answers {name : String} (short : (Text.utf8 name).length ≤ shortLimit) :
    key.Answers (ofText name) (some (some name)) := by
  have length : (Text.utf8 name).length < 2 ^ 64 := Nat.lt_of_le_of_lt short (by decide)
  refine (untaggedHead_answers (by decide) length).bind ?_
  intro rest
  dsimp only
  rw [if_pos short]
  exact (textAfter_answers name).pure_map some rest

theorem byte_answers (octet : UInt8) : byte.Answers (ofNat octet.toNat) (some octet) := by
  have small : octet.toNat < 256 := octet.toNat_lt
  have number : number.Answers (ofNat octet.toNat) (some (some octet.toNat)) := by
    intro rest
    have read := head?_headBytes (show 0 < 7 by decide) (Nat.lt_trans small (by decide)) rest
    obtain ⟨first, more, shape⟩ := List.exists_cons_of_ne_nil (headBytes_ne_nil 0 octet.toNat)
    rw [Reader.number, bind_apply, get_apply, Option.bind_some]
    change numberWithin (headBytes 0 octet.toNat ++ rest) (headBytes 0 octet.toNat ++ rest) = _
    -- How far tags are skipped is bounded by all the bytes there are, and one is enough here.
    conv_lhs => arg 1; rw [shape]
    rw [List.cons_append, numberWithin, bind_apply, Reader.head, read]
    rfl
  intro rest
  rw [byte, bind_apply, number, Option.map_some, Option.bind_some]
  dsimp only
  rw [if_pos small, UInt8.ofNat_toNat]
  rfl

/-- Items that stand one after the other are read one after the other. -/
theorem times_answers {read : Reader β} {write : α → List UInt8} {answer : α → Option β} {items : List α}
    (each : ∀ item ∈ items, read.Answers (write item) (answer item)) :
    (times read items.length).Answers (items.flatMap write) (items.mapM answer) := by
  -- Where an item is not read, the whole list is not, whatever comes later.
  induction items with
  | nil =>
    intro rest
    rfl
  | cons item others ih =>
    intro rest
    have later := ih fun other member => each other (List.mem_cons_of_mem item member)
    rw [List.length_cons, times, bind_apply, List.flatMap_cons, List.append_assoc,
      each item List.mem_cons_self]
    cases first : answer item with
    | none => simp [first]
    | some value =>
      rw [Option.map_some, Option.bind_some, bind_apply, later]
      cases read : others.mapM answer with
      | none => simp [first, read]
      | some values => simp [first, read, pure_apply]

/-- A list is read item by item. -/
theorem list_answers {read : Reader β} {write : α → List UInt8} {answer : α → Option β} {items : List α}
    (fits : Fits (ofList write items)) (filled : ∀ item ∈ items, write item ≠ [])
    (each : ∀ item ∈ items, Fits (write item) → read.Answers (write item) (answer item)) :
    (list read).Answers (ofList write items) (items.mapM answer) := by
  have body : Fits (items.flatMap write) := fits.of_append_right
  have count : items.length < 2 ^ 64 := Nat.lt_of_le_of_lt (length_le_length_flatMap filled) body
  refine (untaggedHead_answers (by decide) count).bind ?_
  exact times_answers fun item member => each item member (body.of_mem_flatMap member)

/-- A list of items that are all read back is read back. -/
theorem list_answers_self {read : Reader α} {write : α → List UInt8} {items : List α}
    (fits : Fits (ofList write items)) (filled : ∀ item ∈ items, write item ≠ [])
    (each : ∀ item ∈ items, Fits (write item) → read.Answers (write item) (some item)) :
    (list read).Answers (ofList write items) (some items) := by
  have read := list_answers fits filled each
  rwa [mapM_eq_self_iff.mpr fun _ _ => rfl] at read

theorem octets_answers {bytes : List UInt8} {count : Nat} (length : bytes.length = count)
    (few : count < 2 ^ 64) :
    (octets count).Answers (ofList (fun octet => ofNat octet.toNat) bytes) (some bytes) := by
  subst length
  have each : ∀ octet ∈ bytes, byte.Answers (ofNat octet.toNat) (some octet) := by
    intro octet _
    exact byte_answers octet
  have all : bytes.mapM (fun octet => some octet) = some bytes :=
    mapM_eq_self_iff.mpr fun _ _ => rfl
  refine (untaggedHead_answers (by decide) few).bind ?_
  intro rest
  dsimp only
  rw [if_pos (Nat.le_refl _), times_answers each, all]

/-- A field of a record as it is written, and what it does to the value that is being read, if it can be
read. -/
structure Written (α : Type) where
  name : String
  bytes : List UInt8
  change? : Option (α → α)

theorem fits_of_written {written : List (Written α)}
    (fits : Fits (ofFields (written.map fun field => (field.name, field.bytes)))) :
    ∀ field ∈ written, Fits field.bytes := by
  intro field member
  exact fits.of_mem_fields (List.mem_map_of_mem member)

/-- The reader of the field with this name answers with the change. -/
def Written.For (field : Written α) (fields : List (String × Reader (α → α))) : Prop :=
  ∃ read, fields.lookup field.name = some read ∧ read.Answers field.bytes field.change?

/-- The value after the changes of some fields. -/
def Written.apply (start : α) (written : List (Written α)) : Option α :=
  written.foldlM (fun value field => field.change?.map fun change => change value) start

variable {fields : List (String × Reader (α → α))} {room : Nat}

theorem entry_answers {field : Written α} (known : field.For fields)
    (short : (Text.utf8 field.name).length ≤ shortLimit) {before : Draft α}
    (fresh : field.name ∉ before.seen) :
    (entry fields room before).Answers (ofText field.name ++ field.bytes)
      (field.change?.map fun change => ⟨change before.value, field.name :: before.seen⟩) := by
  obtain ⟨read, found, reads⟩ := known
  refine (key_answers short).bind ?_
  intro rest
  rw [Option.bind_some, found, Option.map_some]
  dsimp only
  rw [if_neg (by simpa using fresh), bind_apply, reads]
  cases field.change? <;> rfl

theorem entries_answers (room : Nat) {written : List (Written α)}
    (known : ∀ field ∈ written, field.For fields)
    (short : ∀ name ∈ written.map Written.name, (Text.utf8 name).length ≤ shortLimit)
    (distinct : (written.map Written.name).Nodup) (before : Draft α)
    (fresh : ∀ field ∈ written, field.name ∉ before.seen) :
    ∀ rest, (entries fields room written.length before
        ((written.flatMap fun field => ofText field.name ++ field.bytes) ++ rest)).map
          (fun result => (result.1.value, result.2)) =
      (Written.apply before.value written).map fun value => (value, rest) := by
  induction written generalizing before with
  | nil =>
    intro rest
    rfl
  | cons field others ih =>
    intro rest
    rw [List.map_cons, List.nodup_cons] at distinct
    rw [List.map_cons, List.forall_mem_cons] at short
    rw [List.length_cons, entries, bind_apply, List.flatMap_cons, List.append_assoc,
      entry_answers (known field List.mem_cons_self) short.1 (fresh field List.mem_cons_self),
      Written.apply, List.foldlM_cons]
    cases field.change? with
    | none => rfl
    | some change =>
      refine ih (fun other member => known other (List.mem_cons_of_mem field member)) short.2 distinct.2
        _ ?_ rest
      -- A name that comes later is neither this one nor one that was seen before.
      intro other member seen
      rcases List.mem_cons.mp seen with same | earlier
      · exact distinct.1 (same ▸ List.mem_map_of_mem member)
      · exact fresh other (List.mem_cons_of_mem field member) earlier

/-- A record is read field by field, in the order in which the fields are written. -/
theorem record_answers (room : Nat) {written : List (Written α)}
    (known : ∀ field ∈ written, field.For fields)
    (order : written.map Written.name = fields.map Prod.fst)
    (short : ∀ name ∈ fields.map Prod.fst, (Text.utf8 name).length ≤ shortLimit)
    (distinct : (fields.map Prod.fst).Nodup) (few : fields.length < 2 ^ 64) (start : α) :
    (record fields room start).Answers
      (ofFields (written.map fun field => (field.name, field.bytes)))
      (Written.apply start written) := by
  have count : (written.map fun field => (field.name, field.bytes)).length < 2 ^ 64 := by
    have same := congrArg List.length order
    rw [List.length_map, List.length_map] at same
    rwa [List.length_map, same]
  -- The fields are written in the order of their readers, so their names are those of the readers.
  rw [← order] at short distinct
  refine (untaggedHead_answers (by decide) count).bind ?_
  intro rest
  have all := entries_answers room known short distinct ⟨start, []⟩ (by simp) rest
  rw [List.length_map, List.flatMap_map]
  dsimp only
  rw [← all, bind_apply]
  cases entries fields room written.length ⟨start, []⟩ _ <;> rfl

/-- A variant is read by the reader of its name. -/
theorem variant_answers {variants : List (String × Reader α)} {name : String} {bytes : List UInt8}
    {answer : Option α} (short : (Text.utf8 name).length ≤ shortLimit) {read : Reader α}
    (found : variants.lookup name = some read) (reads : read.Answers bytes answer) :
    (variant variants).Answers (ofFields [(name, bytes)]) answer := by
  intro rest
  have start := head?_headBytes (show 5 < 7 by decide) (show 1 < 2 ^ 64 by decide)
    (ofText name ++ (bytes ++ rest))
  have whole : ofFields [(name, bytes)] ++ rest = headBytes 5 1 ++ (ofText name ++ (bytes ++ rest)) := by
    simp [ofFields]
  obtain ⟨first, more, shape⟩ := List.exists_cons_of_ne_nil (headBytes_ne_nil 5 1)
  have opened : variantStart (headBytes 5 1 ++ (ofText name ++ (bytes ++ rest)))
      (headBytes 5 1 ++ (ofText name ++ (bytes ++ rest))) = some ((), ofText name ++ (bytes ++ rest)) := by
    conv_lhs => arg 1; rw [shape]
    rw [List.cons_append, variantStart, bind_apply, get_apply, Option.bind_some, bind_apply, Reader.head,
      start]
    rfl
  rw [whole, variant, bind_apply, get_apply, Option.bind_some, bind_apply, opened, Option.bind_some,
    bind_apply, key_answers short, Option.map_some, Option.bind_some]
  dsimp only
  rw [Option.bind_some, found]
  exact reads rest

end Reader

end CertLifecycle.Cbor
