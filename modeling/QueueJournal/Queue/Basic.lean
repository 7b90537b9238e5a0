import QueueJournal.Item

/-!
# Queues

An unbounded queue of items that can be closed for good. Each operation is a function of the whole
state, which answers and gives the state behind it; a queue shared by threads runs one operation at
a time.

A closed queue is empty, takes no items and holds no buffer. The buffer of an open queue is doubled
when an item comes and no place is left; it never shrinks while the queue is open.
-/

namespace QueueJournal

/-- A queue: its items from head to tail, whether it is closed, and how many items its buffer has
places for. -/
structure Queue (α : Type) where
  /-- The items, the next to be taken first. -/
  items : List α
  /-- Whether the queue has been closed. -/
  closed : Bool
  /-- The places of the buffer. -/
  capacity : Nat

namespace Queue

variable {α : Type}

/-- A new queue. -/
def empty : Queue α := ⟨[], false, 0⟩

/-- How many items there are. -/
def length (q : Queue α) : Nat :=
  q.items.length

/-- Whether there are no items. -/
def isEmpty (q : Queue α) : Bool :=
  q.items.isEmpty

/-- Whether a thread that wants an item has to wait for one. -/
def mustWait (q : Queue α) : Bool :=
  q.isEmpty && !q.closed

/-- The places of the buffer once another item has come: the same if one was left, otherwise twice
as many, and at least those of a first buffer. -/
def grown (first : Nat) (q : Queue α) : Nat :=
  if q.length < q.capacity then q.capacity else max (2 * q.capacity) first

/-! ### Operations -/

/-- Puts an item at the tail and answers with its index; a closed queue refuses. -/
def enqueue [Item α] (q : Queue α) (a : α) : Option Nat × Queue α :=
  if q.closed then (none, q)
  else
    (some q.length, { q with items := q.items ++ [a], capacity := q.grown (Item.firstCapacity α) })

/-- Takes the item at the head; a queue that is empty or closed has none. -/
def tryDequeue (q : Queue α) : Option α × Queue α :=
  if q.closed then (none, q)
  else
    match q.items with
    | [] => (none, q)
    | a :: items => (some a, { q with items })

/-- Takes the item at an index out of the queue, if there is one. -/
def remove (q : Queue α) (index : Nat) : Option α × Queue α :=
  match q.items[index]? with
  | none => (none, q)
  | some a => (some a, { q with items := q.items.eraseIdx index })

/-- An item is taken out at an index that is in range. -/
theorem remove_of_lt {q : Queue α} {index : Nat} (h : index < q.length) :
    q.remove index = (some q.items[index], { q with items := q.items.eraseIdx index }) := by
  rw [remove, List.getElem?_eq_getElem h]

theorem remove_of_le {q : Queue α} {index : Nat} (h : q.length ≤ index) :
    q.remove index = (none, q) := by
  rw [remove, List.getElem?_eq_none h]

/-- Removes the item at an index and answers with the new length, unless the index is out of range.
-/
def tryRemoveAt (q : Queue α) (index : Nat) : Option Nat × Queue α :=
  match q.remove index with
  | (none, q) => (none, q)
  | (some _, q) => (some q.length, q)

theorem tryRemoveAt_of_lt {q : Queue α} {index : Nat} (h : index < q.length) :
    q.tryRemoveAt index = (some (q.length - 1), { q with items := q.items.eraseIdx index }) := by
  simp only [tryRemoveAt, remove_of_lt h, length, List.length_eraseIdx_of_lt h]

theorem tryRemoveAt_of_le {q : Queue α} {index : Nat} (h : q.length ≤ index) :
    q.tryRemoveAt index = (none, q) := by
  rw [tryRemoveAt, remove_of_le h]

/-- Removes all items, keeps the buffer, and answers with how many there were. -/
def clear (q : Queue α) : Nat × Queue α :=
  (q.length, { q with items := [] })

/-- Closes the queue and answers with how many items are discarded; nothing happens and there is no
answer when it is closed already. -/
def close (q : Queue α) : Option Nat × Queue α :=
  if q.closed then (none, q) else (some q.length, ⟨[], true, 0⟩)

/-- An index that is out of range for a queue of that length. -/
structure OutOfRange where
  /-- The index. -/
  index : Nat
  /-- The length of the queue. -/
  length : Nat
deriving DecidableEq, Repr

/-- The wording of an index out of range. -/
def OutOfRange.message (e : OutOfRange) : List Char :=
  "remove_at index (is ".toList ++ Text.decimal e.index ++ ") should be < len (is ".toList ++
    Text.decimal e.length ++ [')']

end Queue

end QueueJournal
