import QueueJournal.Item

/-!
# Events

An event says that a worker called an operation of the queue, and with what result. `index` is the
position that the operation touched, `size` a count that it reported: the items that were cleared,
or the length after a removal. An event is accepted unless the operation was refused.
-/

namespace QueueJournal

/-- The operations of a queue that are recorded. -/
inductive Operation where
  /-- An item is put at the tail. -/
  | enqueue
  /-- The item at the head is taken. -/
  | dequeue
  /-- The item at an index is removed. -/
  | removeAt
  /-- All items are removed. -/
  | clear
  /-- The queue is closed. -/
  | close
deriving DecidableEq, Repr

namespace Operation

/-- All operations. -/
def all : List Operation :=
  [enqueue, dequeue, removeAt, clear, close]

/-- The name of an operation in a journal. -/
def name : Operation → String
  | enqueue => "enqueue"
  | dequeue => "dequeue"
  | removeAt => "remove_at"
  | clear => "clear"
  | close => "close"

/-- The operation of that name. -/
def ofName? (name : String) : Option Operation :=
  all.find? fun op ↦ op.name == name

@[simp]
theorem ofName?_name (op : Operation) : ofName? op.name = some op := by
  cases op <;> decide

end Operation

/-- One operation of a worker, and its result. -/
structure Event (α : Type) where
  /-- The number of the event. -/
  id : Nat
  /-- The name of the worker. -/
  worker : String
  /-- The operation. -/
  operation : Operation
  /-- The item that was put or taken. -/
  item : Option α
  /-- The position that the operation touched. -/
  index : Option Nat
  /-- The count that the operation reported. -/
  size : Option Nat
  /-- Whether the operation had an effect. -/
  accepted : Bool
  /-- The time of the event in microseconds. -/
  atMicros : Nat

/-- The number and the time that an event is given when it is built. -/
structure Stamp where
  /-- The number of the event. -/
  id : Nat
  /-- The time of the event in microseconds. -/
  atMicros : Nat

namespace Event

variable {α : Type}

/-- An item was put at an index, or refused if there is none. -/
def enqueue (stamp : Stamp) (worker : String) (item : α) (index : Option Nat) : Event α where
  id := stamp.id
  worker := worker
  operation := .enqueue
  item := some item
  index := index
  size := none
  accepted := index.isSome
  atMicros := stamp.atMicros

/-- An item was taken, or none was there. -/
def dequeue (stamp : Stamp) (worker : String) (item : Option α) : Event α where
  id := stamp.id
  worker := worker
  operation := .dequeue
  item := item
  index := none
  size := none
  accepted := item.isSome
  atMicros := stamp.atMicros

/-- The item at an index was removed and left so many, or the index was out of range. -/
def removeAt (stamp : Stamp) (worker : String) (index : Nat) (newLength : Option Nat) :
    Event α where
  id := stamp.id
  worker := worker
  operation := .removeAt
  item := none
  index := some index
  size := newLength
  accepted := newLength.isSome
  atMicros := stamp.atMicros

/-- So many items were removed. -/
def clear (stamp : Stamp) (worker : String) (removed : Nat) : Event α where
  id := stamp.id
  worker := worker
  operation := .clear
  item := none
  index := none
  size := some removed
  accepted := true
  atMicros := stamp.atMicros

/-- The queue was closed. -/
def close (stamp : Stamp) (worker : String) : Event α where
  id := stamp.id
  worker := worker
  operation := .close
  item := none
  index := none
  size := none
  accepted := true
  atMicros := stamp.atMicros

/-- Equality of what may be an item. -/
def sameItem [Item α] : Option α → Option α → Bool
  | none, none => true
  | some a, some b => Item.same a b
  | _, _ => false

/-- Equality of events, where items are compared as their kind says. -/
def same [Item α] (e f : Event α) : Bool :=
  e.id == f.id && e.worker == f.worker && e.operation == f.operation && sameItem e.item f.item &&
    e.index == f.index && e.size == f.size && e.accepted == f.accepted && e.atMicros == f.atMicros

/-- Equality of lists of events. -/
def sameAll [Item α] : List (Event α) → List (Event α) → Bool
  | [], [] => true
  | e :: es, f :: fs => e.same f && sameAll es fs
  | _, _ => false

end Event

end QueueJournal
