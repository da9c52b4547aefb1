/-!
Dictionaries keyed by text. The entries ascend strictly by key, so two dictionaries with the same
content are equal, and every listing of one comes in the byte order of the keys. Main result: an
insertion sets the value under its key and changes no other.
-/

namespace CertLifecycle

/-- A finite map from texts, kept in ascending order of the keys. -/
structure Dictionary (β : Type) where
  entries : List (String × β)
  ascending : entries.Pairwise fun a b => a.1 < b.1
  deriving DecidableEq

namespace Dictionary

variable {β : Type}

def empty : Dictionary β :=
  ⟨[], .nil⟩

instance : EmptyCollection (Dictionary β) := ⟨empty⟩

instance : Inhabited (Dictionary β) := ⟨empty⟩

/-- Puts an entry into its place in an ascending list, replacing one with the same key. -/
def insertEntry (key : String) (value : β) : List (String × β) → List (String × β)
  | [] => [(key, value)]
  | (other, kept) :: rest =>
    if key < other then (key, value) :: (other, kept) :: rest
    else if key = other then (key, value) :: rest
    else (other, kept) :: insertEntry key value rest

/-- Every key after an insertion is the new one or an old one. -/
theorem key_of_mem_insertEntry {key : String} {value : β} {entries : List (String × β)}
    {entry : String × β} (member : entry ∈ insertEntry key value entries) :
    entry.1 = key ∨ entry ∈ entries := by
  induction entries with
  | nil => simp_all [insertEntry]
  | cons first rest ih =>
    simp only [insertEntry] at member
    split at member
    · rcases List.mem_cons.1 member with rfl | old
      · exact .inl rfl
      · exact .inr old
    · split at member
      · rcases List.mem_cons.1 member with rfl | old
        · exact .inl rfl
        · exact .inr (List.mem_cons_of_mem _ old)
      · rcases List.mem_cons.1 member with rfl | later
        · exact .inr List.mem_cons_self
        · exact (ih later).imp_right (List.mem_cons_of_mem _)

/-- Insertion keeps the keys ascending. -/
theorem ascending_insertEntry (key : String) (value : β) {entries : List (String × β)}
    (ascending : entries.Pairwise fun a b => a.1 < b.1) :
    (insertEntry key value entries).Pairwise fun a b => a.1 < b.1 := by
  induction entries with
  | nil => simp [insertEntry]
  | cons first rest ih =>
    obtain ⟨above, tail⟩ := List.pairwise_cons.1 ascending
    simp only [insertEntry]
    split
    next before =>
      refine List.pairwise_cons.2 ⟨fun entry member => ?_, ascending⟩
      rcases List.mem_cons.1 member with rfl | later
      · exact before
      · exact String.lt_trans before (above entry later)
    next before =>
      split
      next same =>
        subst same
        exact List.pairwise_cons.2 ⟨above, tail⟩
      next differs =>
        refine List.pairwise_cons.2 ⟨fun entry member => ?_, ih tail⟩
        rcases key_of_mem_insertEntry member with new | old
        -- The new key is neither below the first one nor equal to it, so it is above.
        · have least := String.not_lt.1 before
          rcases String.le_total first.1 key with below | above
          · rw [new]
            refine String.not_le.1 fun reverse => differs ?_
            exact String.le_antisymm reverse below
          · exact absurd (String.le_antisymm above least) differs
        · exact above entry old

/-- Sets the value under a key. -/
def insert (d : Dictionary β) (key : String) (value : β) : Dictionary β :=
  ⟨insertEntry key value d.entries, ascending_insertEntry key value d.ascending⟩

/-- The dictionary of a list of entries; the last entry with a key counts. -/
def ofList (entries : List (String × β)) : Dictionary β :=
  entries.foldl (fun d (key, value) => d.insert key value) empty

/-- The value under a key. -/
def get? (d : Dictionary β) (key : String) : Option β :=
  d.entries.lookup key

/-- Whether there is a value under a key. -/
def contains (d : Dictionary β) (key : String) : Bool :=
  (d.get? key).isSome

/-- The entries in ascending order of their keys. -/
def toList (d : Dictionary β) : List (String × β) :=
  d.entries

/-- The empty dictionary has no values. -/
@[simp]
theorem get?_empty (key : String) : (empty : Dictionary β).get? key = none := rfl

/-- The first entry of a list decides for its own key only. -/
theorem lookup_entry_cons (key wanted : String) (value : β) (rest : List (String × β)) :
    ((key, value) :: rest).lookup wanted
      = if wanted = key then some value else rest.lookup wanted := by
  by_cases same : wanted = key
  · simp [same]
  · simp [List.lookup_cons, beq_eq_false_iff_ne.2 same, same]

/-- Insertion into the entries sets one key and leaves every other as it was. -/
theorem lookup_insertEntry (key wanted : String) (value : β) (entries : List (String × β)) :
    (insertEntry key value entries).lookup wanted
      = if wanted = key then some value else entries.lookup wanted := by
  induction entries with
  | nil => exact lookup_entry_cons key wanted value []
  | cons first rest ih =>
    obtain ⟨other, kept⟩ := first
    rw [insertEntry]
    split
    next => exact lookup_entry_cons key wanted value _
    next =>
      split
      next replaces =>
        simp only [lookup_entry_cons, replaces]
        split <;> rfl
      next differs =>
        simp only [lookup_entry_cons, ih]
        by_cases found : wanted = other
        · simp [found, Ne.symm differs]
        · simp [found]

/-- Insertion sets one key and leaves every other as it was. -/
@[simp]
theorem get?_insert (d : Dictionary β) (key wanted : String) (value : β) :
    (d.insert key value).get? wanted = if wanted = key then some value else d.get? wanted :=
  lookup_insertEntry key wanted value d.entries

end Dictionary

end CertLifecycle
