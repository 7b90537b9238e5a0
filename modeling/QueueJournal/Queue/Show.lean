import QueueJournal.Queue.Basic
import QueueJournal.Text.Record

/-!
# A queue shown as text

A queue is shown by its length and whether it is closed, not by its items. An iterator over a queue
is shown by the queue.
-/

namespace QueueJournal.Queue

/-- What of a queue is shown. -/
inductive View where
  /-- The queue itself. -/
  | queue
  /-- The iterator that waits for items. -/
  | iterator
  /-- The iterator that ends when there are no items. -/
  | tryIterator
deriving DecidableEq, Repr

variable {α : Type}

/-- The queue as a record. -/
def record (q : Queue α) : Text.Record :=
  .record "Queue".toList [("len".toList, .number q.length), ("closed".toList, .bool q.closed)]

/-- A view of the queue as a record. -/
def View.record (q : Queue α) : View → Text.Record
  | queue => q.record
  | iterator => .record "Iter".toList [("queue".toList, q.record)]
  | tryIterator => .record "TryIter".toList [("queue".toList, q.record)]

/-- The text of a view of the queue, spread over lines or not. -/
def display (q : Queue α) (view : View) (pretty : Bool) : List Char :=
  (view.record q).render pretty

end QueueJournal.Queue
