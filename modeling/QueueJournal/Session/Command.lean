import QueueJournal.Event.Basic
import QueueJournal.Failure
import QueueJournal.Notice
import QueueJournal.Queue.Show
import QueueJournal.Session.Pattern
import QueueJournal.Text.Bytes

/-!
# Commands and answers

What a session can be told, and what it answers. A session works on one queue, one journal and the
files below one directory.
-/

namespace QueueJournal

/-- Who records the operation of a command, if anyone, and what the event is stamped with if not
with the next number and time zero. -/
structure Recorder where
  /-- The name of the worker; nothing is recorded without one. -/
  worker : Option String
  /-- The number of the event. -/
  id : Option Nat
  /-- The time of the event. -/
  atMicros : Option Nat
deriving DecidableEq, Repr

/-- What an event is built from without calling the queue. -/
inductive Account (α : Type) where
  /-- An item was put at an index or refused. -/
  | enqueue (item : α) (index : Option Nat)
  /-- An item was taken, or none was there. -/
  | dequeue (item : Option α)
  /-- The item at an index was removed and left so many, or the index was out of range. -/
  | removeAt (index : Nat) (newLength : Option Nat)
  /-- So many items were removed. -/
  | clear (removed : Nat)
  /-- The queue was closed. -/
  | close

/-- The event of an account. -/
def Account.event {α : Type} (stamp : Stamp) (worker : String) : Account α → Event α
  | enqueue item index => .enqueue stamp worker item index
  | dequeue item => .dequeue stamp worker item
  | removeAt index newLength => .removeAt stamp worker index newLength
  | clear removed => .clear stamp worker removed
  | close => .close stamp worker

/-- What a session can be told. -/
inductive Command (α : Type) where
  /-- Put an item. -/
  | enqueue (item : α) (recorder : Recorder)
  /-- Put items one after the other. -/
  | enqueueMany (items : List α)
  /-- Take an item, in a thread of its own if that has to wait. -/
  | dequeue (recorder : Recorder)
  /-- Take an item if there is one. -/
  | tryDequeue (recorder : Recorder)
  /-- Tell how many threads wait. -/
  | settle
  /-- Tell whether the queue is empty. -/
  | isEmpty
  /-- Tell the items. -/
  | items
  /-- Tell the places of the buffer. -/
  | capacity
  /-- Find an item that equals the target. -/
  | indexOf (target : α)
  /-- Find an item by a pattern. -/
  | search (pattern : Pattern)
  /-- Remove the item at an index. -/
  | removeAt (index : Nat) (recorder : Recorder)
  /-- Remove the item at an index if there is one. -/
  | tryRemoveAt (index : Nat) (recorder : Recorder)
  /-- Remove all items. -/
  | clear (recorder : Recorder)
  /-- Close the queue. -/
  | close (recorder : Recorder)
  /-- Close the queue so many times at once. -/
  | closeMany (count : Nat)
  /-- Show a view of the queue. -/
  | display (view : Queue.View) (pretty : Bool)
  /-- Take at most so many items, from an open queue never more than there are. -/
  | take (limit : Nat)
  /-- Take items up to one that equals the last, or all. -/
  | takeThrough (last : Option α)
  /-- Take at most so many items, or all, without waiting. -/
  | tryTake (limit : Option Nat)
  /-- Collect all items in a thread while others are put, then close the queue. -/
  | consume (items : List α)
  /-- Collect all items in several threads while others are put batch by batch, then close the
  queue. -/
  | exchange (batches : List (List α)) (consumers : Nat)
  /-- Record an event that is told. -/
  | event (account : Account α) (recorder : Recorder)
  /-- Tell how many entries the journal has. -/
  | journalLength
  /-- Tell whether the journal has no entries. -/
  | journalIsEmpty
  /-- Count the accepted entries of an operation. -/
  | count (operation : Operation)
  /-- Tell the entries of the journal. -/
  | entries
  /-- Tell the entries of a worker. -/
  | entriesOf (worker : String)
  /-- Begin a new journal. -/
  | newJournal
  /-- Append the journal to a file. -/
  | append (path : String)
  /-- Read the events of a file. -/
  | read (path : String)
  /-- Write a file, or behind its content. -/
  | write (path : String) (content : Bytes) (append : Bool)
  /-- Make a directory. -/
  | makeDirectory (path : String)
  /-- Tell the content of a file. -/
  | content (path : String)

/-- What a session answers. -/
inductive Reply (α : Type) where
  /-- There is nothing to tell. -/
  | nothing
  /-- A number. -/
  | count (n : Nat)
  /-- An index, if there is one. -/
  | index (index : Option Nat)
  /-- The index of each item, if it was taken. -/
  | indices (indices : List (Option Nat))
  /-- A truth value. -/
  | flag (b : Bool)
  /-- A text. -/
  | text (text : List Char)
  /-- An item, if there is one. -/
  | item (item : Option α)
  /-- A thread waits for an item. -/
  | blocked
  /-- Items. -/
  | items (items : List α)
  /-- The index of a search, if it found one, and how often the test was asked. -/
  | found (index : Option Nat) (calls : Nat)
  /-- Events. -/
  | events (events : List (Event α))
  /-- The written forms of events, and whether they are those of the journal. -/
  | texts (texts : List (List Char)) (equal : Bool)
  /-- The content of a file, if it can be read. -/
  | content (content : Option Bytes)
  /-- How many items of an exchange were put, which were received, and whether every consumer saw
  every batch in order. -/
  | exchanged (accepted : Nat) (received : List α) (ordered : Bool)

/-- Why a command has no reply. -/
inductive Problem where
  /-- The journal's file failed. -/
  | failure (failure : Failure)
  /-- An event has no written form. -/
  | refused (reason : String)
  /-- An index is out of range. -/
  | outOfRange (error : Queue.OutOfRange)
  /-- The test of a search broke off when it was asked so many times. -/
  | interrupted (calls : Nat)
deriving DecidableEq, Repr

/-- The wording of a problem. -/
def Problem.message : Problem → List Char
  | failure f => f.message
  | refused reason => reason.toList
  | outOfRange e => e.message
  | interrupted _ => "predicate failure".toList

/-- What a session answers to a command, and how it stands then. -/
structure Answer (α : Type) where
  /-- The reply, or why there is none. -/
  result : Except Problem (Reply α)
  /-- What waiting threads were given. -/
  delivered : List (Option α)
  /-- How many items the queue has. -/
  length : Nat
  /-- Whether the queue is closed. -/
  closed : Bool
  /-- What was reported on the way. -/
  notices : List Notice

end QueueJournal
