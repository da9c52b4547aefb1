import CertLifecycle.Json.Fields
import CertLifecycle.Proofs.Collection.Traversal
import CertLifecycle.Proofs.Json.RoundTrip

/-!
What data is written as is read as that data, shape by shape. Each shape is written as a value that has a
text, so it also comes back from the text. Main results: `represents_dictionary` and `fields?_ofMembers`, the
members of a record come back if they are written under its field names.
-/

namespace CertLifecycle

namespace Dictionary

variable {β : Type}

theorem insertEntry_of_above {key : String} {entries : List (String × β)}
    (above : ∀ entry ∈ entries, entry.1 < key) (value : β) :
    insertEntry key value entries = entries ++ [(key, value)] := by
  induction entries with
  | nil => rfl
  | cons first rest ih =>
    have below := above first List.mem_cons_self
    have later := ih fun entry member => above entry (List.mem_cons_of_mem first member)
    rw [insertEntry, if_neg (String.lt_asymm below), if_neg (String.ne_of_lt below).symm, later,
      List.cons_append]

/-- A dictionary is made of its entries again. -/
theorem ofList_toList (d : Dictionary β) : ofList d.toList = d := by
  have collected : ∀ (rest : List (String × β)) (before : Dictionary β),
      (before.entries ++ rest).Pairwise (fun a b => a.1 < b.1) →
        (rest.foldl (fun d entry => d.insert entry.1 entry.2) before).entries =
          before.entries ++ rest := by
    intro rest
    induction rest with
    | nil => simp
    | cons first rest ih =>
      intro before ascending
      -- Every key so far is below the next one, so the new entry is the last one.
      have above : ∀ entry ∈ before.entries, entry.1 < first.1 := fun entry member =>
        (List.pairwise_append.mp ascending).2.2 entry member _ List.mem_cons_self
      have inserted : (before.insert first.1 first.2).entries = before.entries ++ [first] :=
        insertEntry_of_above above first.2
      have ordered : ((before.insert first.1 first.2).entries ++ rest).Pairwise
          fun a b => a.1 < b.1 := by
        rw [inserted, List.append_assoc]
        exact ascending
      rw [List.foldl_cons, ih _ ordered, inserted, List.append_assoc, List.singleton_append]
  have whole := collected d.toList empty d.ascending
  cases d
  rw [ofList, mk.injEq]
  exact whole

end Dictionary

namespace Json

open Collection (mapM_read_write)

variable {α : Type}

/-- A JSON value stands for a value: it is made of texts and whole numbers, it is not null, and it is read
as that value. -/
structure Represents (read : Json → Option α) (j : Json) (value : α) : Prop where
  plain : j.Plain
  filled : j ≠ .null
  reads : read j = some value

/-- A value that is represented comes back from the text of what represents it. -/
theorem Represents.parse?_text_bind {read : Json → Option α} {j : Json} {value : α}
    (written : Represents read j value) : (parse? j.text).bind read = some value := by
  rw [parse?_text written.plain, Option.bind_some, written.reads]

theorem piecesText?_chars (s : String) : piecesText? (s.toList.map .char) = some s := by
  have chars : (s.toList.map Piece.char).mapM Piece.char? = some s.toList :=
    mapM_read_write fun _ _ => rfl
  rw [piecesText?, chars, Option.map_some, String.ofList_toList]

theorem namedMember?_chars (name : String) (value : Json) :
    namedMember? (name.toList.map .char, value) = some (name, value) := by
  rw [namedMember?, piecesText?_chars, Option.map_some]

theorem represents_ofString (s : String) : Represents text? (ofString s) s where
  plain := .string s.toList
  filled := Json.noConfusion
  reads := piecesText?_chars s

theorem represents_bool (value : Bool) : Represents bool? (.bool value) value where
  plain := .bool value
  filled := Json.noConfusion
  reads := rfl

theorem represents_ofNat {n limit : Nat} (small : n < limit) :
    Represents (below? limit) (ofNat n) n where
  plain := .integer false n
  filled := Json.noConfusion
  reads := if_pos small

theorem represents_choice {ofName? : String → Option α} {name : String} {value : α}
    (known : ofName? name = some value) : Represents (choice? ofName?) (ofString name) value where
  plain := .string name.toList
  filled := Json.noConfusion
  reads := by rw [ofString, choice?, piecesText?_chars, Option.bind_eq_bind, Option.bind_some, known]

theorem represents_list {read : Json → Option α} {write : α → Json}
    (each : ∀ value, Represents read (write value) value) (values : List α) :
    Represents (list? read) (.array (values.map write)) values where
  plain := by
    refine .array fun item member => ?_
    obtain ⟨value, _, rfl⟩ := List.mem_map.mp member
    exact (each value).plain
  filled := Json.noConfusion
  reads := mapM_read_write fun value _ => (each value).reads

theorem represents_ofStrings (texts : List String) : Represents (list? text?) (ofStrings texts) texts :=
  represents_list represents_ofString texts

theorem represents_ofBytes (bytes : List UInt8) : Represents bytes? (ofBytes bytes) bytes where
  plain := by
    refine .array fun item member => ?_
    obtain ⟨byte, _, rfl⟩ := List.mem_map.mp member
    exact .integer false byte.toNat
  filled := Json.noConfusion
  reads := by
    refine mapM_read_write fun byte _ => ?_
    rw [(represents_ofNat byte.toNat_lt).reads, Option.map_some, UInt8.ofNat_toNat]
    rfl

section Record

variable {names : List String} {members : Fields}

theorem plain_ofMembers (values : ∀ member ∈ members, member.2.Plain) : (ofMembers members).Plain := by
  refine .object (fun member written => ?_) fun member written => ?_
  all_goals obtain ⟨⟨name, value⟩, known, rfl⟩ := List.mem_map.mp written
  · exact ⟨name.toList, rfl⟩
  · exact values _ known

theorem represents_dictionary {read : Json → Option α} {write : α → Json}
    (each : ∀ value, Represents read (write value) value) (d : Dictionary α) :
    Represents (dictionary? read) (ofDictionary write d) d where
  plain := by
    refine plain_ofMembers fun member written => ?_
    obtain ⟨⟨key, value⟩, _, rfl⟩ := List.mem_map.mp written
    exact (each value).plain
  filled := Json.noConfusion
  reads := by
    rw [ofDictionary, ofMembers, dictionary?, List.map_map, mapM_read_write, Option.pure_def,
      Option.bind_eq_bind, Option.bind_some, Dictionary.ofList_toList]
    intro entry _
    simp [namedMember?_chars, (each entry.2).reads]

/-- Members written under the names of a record, each name at most once, are its fields. -/
theorem fields?_ofMembers (known : (members.map Prod.fst).Sublist names) (distinct : names.Nodup) :
    fields? names (ofMembers members) = some members := by
  have all : ∀ member ∈ members, names.contains member.1 = true := by
    intro member written
    exact List.contains_iff_mem.mpr (known.subset (List.mem_map_of_mem written))
  rw [ofMembers, fields?, mapM_read_write fun member _ => namedMember?_chars member.1 member.2,
    Option.pure_def, Option.bind_eq_bind, Option.bind_some, List.partition_eq_filter_filter,
    List.filter_eq_self.mpr all]
  have none : members.filter (not ∘ fun member => names.contains member.1) = [] := by
    refine List.filter_eq_nil_iff.mpr fun member written => ?_
    simp only [Function.comp_apply, all member written, Bool.not_true, Bool.false_eq_true,
      not_false_eq_true]
  simp only [none, List.all_nil, and_true, if_pos (known.nodup distinct)]

theorem closedFields?_ofMembers (known : (members.map Prod.fst).Sublist names)
    (distinct : names.Nodup) : closedFields? names (ofMembers members) = some members := by
  rw [closedFields?, fields?_ofMembers known distinct, Option.bind_eq_bind, Option.bind_some, ofMembers]
  exact if_pos (List.length_map _)

/-- A record is read field by field from its members. -/
theorem represents_record {build : Fields → Option α} {value : α}
    (known : (members.map Prod.fst).Sublist names) (distinct : names.Nodup)
    (plain : ∀ member ∈ members, member.2.Plain) (built : build members = some value) :
    Represents (fun j => (fields? names j).bind build) (ofMembers members) value where
  plain := plain_ofMembers plain
  filled := Json.noConfusion
  reads := by rw [fields?_ofMembers known distinct, Option.bind_some, built]

end Record

namespace Fields

variable {name wanted : String} {j : Json} {rest : Fields} {default : α} {read : Json → Option α}

@[simp]
theorem required_cons_self : required ((name, j) :: rest) name read = read j := by
  rw [required, Dictionary.lookup_entry_cons, if_pos rfl, Option.bind_eq_bind, Option.bind_some]

@[simp]
theorem required_cons_ne (differs : wanted ≠ name) :
    required ((name, j) :: rest) wanted read = required rest wanted read := by
  rw [required, required, Dictionary.lookup_entry_cons, if_neg differs]

@[simp]
theorem withDefault_nil : withDefault [] wanted default read = some default := rfl

@[simp]
theorem withDefault_cons_self : withDefault ((name, j) :: rest) name default read = read j := by
  rw [withDefault, Dictionary.lookup_entry_cons, if_pos rfl]

@[simp]
theorem withDefault_cons_ne (differs : wanted ≠ name) :
    withDefault ((name, j) :: rest) wanted default read = withDefault rest wanted default read := by
  rw [withDefault, withDefault, Dictionary.lookup_entry_cons, if_neg differs]

@[simp]
theorem optional_nil : optional [] wanted read = some none := rfl

@[simp]
theorem optional_cons_self (filled : j ≠ .null) :
    optional ((name, j) :: rest) name read = (read j).map some := by
  rw [optional, Dictionary.lookup_entry_cons, if_pos rfl]
  split
  next unset => cases unset
  next null => exact absurd (Option.some.inj null) filled
  next set => rw [Option.some.inj set]

@[simp]
theorem optional_cons_ne (differs : wanted ≠ name) :
    optional ((name, j) :: rest) wanted read = optional rest wanted read := by
  rw [optional, optional, Dictionary.lookup_entry_cons, if_neg differs]

end Fields

end Json

end CertLifecycle
