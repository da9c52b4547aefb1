import CertLifecycle.Reconcile.Queue
import Mathlib.Data.List.Nodup

/-!
The queue keeps its order and its set in step. Main result: `toList_addAll`, keys added one after the
other leave what waited before as it was and put each new key behind it once.
-/

namespace CertLifecycle.Queue

/-- The set beside the order is the set of the keys in it, and no key waits twice. -/
structure Consistent (queue : Queue) : Prop where
  distinct : queue.order.Nodup
  covers : ∀ key, queue.pending.contains key = true ↔ key ∈ queue.order

theorem consistent_empty : empty.Consistent where
  distinct := .nil
  covers key := by simp [empty]

theorem consistent_add {queue : Queue} (consistent : queue.Consistent) (key : Key) :
    (queue.add key).Consistent := by
  unfold add
  split
  next => exact consistent
  next free =>
    -- The set does not have the key, so the order does not have it either.
    have absent : key ∉ queue.order := fun waits => free ((consistent.covers key).mpr waits)
    have distinct : (queue.order ++ [key]).Nodup := by
      rw [← List.concat_eq_append]
      exact consistent.distinct.concat absent
    refine ⟨distinct, fun other => ?_⟩
    rw [Std.HashSet.contains_insert, Bool.or_eq_true, consistent.covers, beq_iff_eq, List.mem_append,
      List.mem_singleton, or_comm, eq_comm]

theorem consistent_pop {queue : Queue} (consistent : queue.Consistent) :
    queue.pop.2.Consistent := by
  obtain ⟨distinct, covers⟩ := consistent
  unfold pop
  split
  next => exact ⟨distinct, covers⟩
  next oldest rest order =>
    rw [order] at distinct
    obtain ⟨absent, tail⟩ := List.nodup_cons.mp distinct
    refine ⟨tail, fun other => ?_⟩
    rw [Std.HashSet.contains_erase, Bool.and_eq_true, Bool.not_eq_true', beq_eq_false_iff_ne, covers,
      order, List.mem_cons]
    constructor
    -- Only the oldest key leaves the set, and it waits nowhere else.
    · rintro ⟨differs, rfl | later⟩
      · exact absurd rfl differs
      · exact later
    · intro later
      exact ⟨fun same => absent (same ▸ later), .inr later⟩

theorem consistent_addAll {queue : Queue} (consistent : queue.Consistent) (keys : List Key) :
    (queue.addAll keys).Consistent := by
  induction keys generalizing queue with
  | nil => exact consistent
  | cons key rest ih => exact ih (consistent_add consistent key)

theorem toList_add {queue : Queue} (consistent : queue.Consistent) (key : Key) :
    (queue.add key).toList =
      if key ∈ queue.toList then queue.toList else queue.toList ++ [key] := by
  by_cases waits : key ∈ queue.toList
  · rw [if_pos waits]
    exact toList_add_of_pending ((consistent.covers key).mpr waits)
  · rw [if_neg waits]
    refine toList_add_of_not_pending (Bool.eq_false_iff.mpr fun pending => ?_)
    exact waits ((consistent.covers key).mp pending)

theorem mem_toList_add {queue : Queue} (consistent : queue.Consistent) (key other : Key) :
    other ∈ (queue.add key).toList ↔ other = key ∨ other ∈ queue.toList := by
  rw [toList_add consistent]
  by_cases waits : key ∈ queue.toList
  · rw [if_pos waits]
    exact ⟨.inr, fun known => known.elim (fun same => same ▸ waits) id⟩
  · rw [if_neg waits, List.mem_append, List.mem_singleton, or_comm]

/-- Two keys take two entries, and one key added twice takes one. -/
theorem length_entries_add_add {queue : Queue} (consistent : queue.Consistent) (key key' : Key) :
    (((queue.add key).add key').toList.filter fun entry => entry = key ∨ entry = key').length =
      if key = key' then 1 else 2 := by
  have once := consistent_add consistent key
  have twice := (consistent_add once key').distinct
  -- An entry for either key is there, and no key has two, so counting them is counting the keys.
  have entries : ∀ entry, entry ∈ (((queue.add key).add key').toList.filter
      fun entry => entry = key ∨ entry = key') ↔ entry = key ∨ entry = key' := by
    intro entry
    simp only [List.mem_filter, mem_toList_add once, mem_toList_add consistent, decide_eq_true_eq]
    exact ⟨And.right, fun named => ⟨named.elim (.inr ∘ .inl) .inl, named⟩⟩
  by_cases same : key = key'
  · subst same
    have single := (List.perm_ext_iff_of_nodup (twice.filter _) (List.nodup_singleton key)).mpr
      fun entry => (entries entry).trans (by simp)
    rw [if_pos rfl]
    exact single.length_eq
  · have pair := (List.perm_ext_iff_of_nodup (twice.filter _)
      (List.nodup_cons.mpr ⟨by simpa using same, List.nodup_singleton key'⟩)).mpr
      fun entry => (entries entry).trans (by simp)
    rw [if_neg same]
    exact pair.length_eq

/-- Adding keys puts behind the waiting ones the first occurrences of those that did not wait. -/
theorem toList_addAll {queue : Queue} (consistent : queue.Consistent) (keys : List Key) :
    (queue.addAll keys).toList =
      queue.toList ++ (keys.filter fun key => key ∉ queue.toList).eraseDups := by
  induction keys generalizing queue with
  | nil => simp [addAll]
  | cons key rest ih =>
    have step : queue.addAll (key :: rest) = (queue.add key).addAll rest := rfl
    rw [step, ih (consistent_add consistent key), toList_add consistent]
    by_cases waits : key ∈ queue.toList
    · simp [waits]
    · -- The key now waits itself, so its later occurrences are passed over like the old ones.
      have passed : (rest.filter fun other => other ∉ queue.toList ++ [key]) =
          (rest.filter fun other => other ∉ queue.toList).filter fun other => !other == key := by
        rw [List.filter_filter]
        refine List.filter_congr fun other _ => ?_
        by_cases same : other = key <;> simp [same]
      rw [if_neg waits, passed, List.filter_cons_of_pos (by simpa using waits), List.eraseDups_cons,
        List.append_assoc, List.singleton_append]

/-- A call that changes a queue. -/
inductive Call where
  | add (key : Key)
  | pop

def call (queue : Queue) : Call → Queue
  | .add key => queue.add key
  | .pop => queue.pop.2

/-- The queue after a history of calls to a new one. -/
def replay (history : List Call) : Queue :=
  history.foldl call empty

theorem consistent_call {queue : Queue} (consistent : queue.Consistent) (last : Call) :
    (queue.call last).Consistent := by
  cases last with
  | add key => exact consistent_add consistent key
  | pop => exact consistent_pop consistent

theorem consistent_replay (history : List Call) : (replay history).Consistent := by
  -- A history may go on from any queue that is in step, not only from the empty one.
  have kept : ∀ queue : Queue, queue.Consistent → (history.foldl call queue).Consistent := by
    induction history with
    | nil => exact fun _ consistent => consistent
    | cons first rest ih => exact fun queue consistent => ih _ (consistent_call consistent first)
  exact kept empty consistent_empty

end CertLifecycle.Queue
