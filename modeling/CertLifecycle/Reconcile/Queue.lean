import CertLifecycle.Reconcile.Key
import Std.Data.HashSet

/-!
The queue of keys that wait. A key that is waiting already is not added again; once it has been
taken it can be. Whether a key waits is looked up in a set beside the order.
-/

namespace CertLifecycle

/-- Keys that wait, the oldest first, and the set of them. -/
structure Queue where
  order : List Key := []
  pending : Std.HashSet Key := ∅

namespace Queue

def empty : Queue := {}

/-- Adds a key unless it waits already. -/
def add (queue : Queue) (key : Key) : Queue :=
  if queue.pending.contains key then queue
  else ⟨queue.order ++ [key], queue.pending.insert key⟩

/-- Adds keys in order. -/
def addAll (queue : Queue) (keys : List Key) : Queue :=
  keys.foldl add queue

/-- Takes the oldest key. -/
def pop (queue : Queue) : Option Key × Queue :=
  match queue.order with
  | [] => (none, queue)
  | oldest :: rest => (some oldest, ⟨rest, queue.pending.erase oldest⟩)

def size (queue : Queue) : Nat :=
  queue.order.length

def isEmpty (queue : Queue) : Bool :=
  queue.size == 0

/-- The keys that wait, the oldest first. -/
def toList (queue : Queue) : List Key :=
  queue.order

@[simp]
theorem toList_empty : empty.toList = [] := rfl

/-- A key that waits already is not added again. -/
theorem toList_add_of_pending {queue : Queue} {key : Key}
    (waits : queue.pending.contains key = true) : (queue.add key).toList = queue.toList := by
  simp [add, waits]

/-- A key that does not wait goes to the end. -/
theorem toList_add_of_not_pending {queue : Queue} {key : Key}
    (free : queue.pending.contains key = false) :
    (queue.add key).toList = queue.toList ++ [key] := by
  simp [add, free, toList]

/-- The key that is taken is the oldest. -/
theorem pop_fst (queue : Queue) : queue.pop.1 = queue.toList.head? := by
  unfold pop toList
  split <;> simp [*]

/-- The keys that still wait are the others. -/
theorem toList_pop (queue : Queue) : queue.pop.2.toList = queue.toList.tail := by
  unfold pop toList
  split <;> simp [*]

end Queue

end CertLifecycle
