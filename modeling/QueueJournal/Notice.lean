import QueueJournal.Text.Numeral

/-!
# Notices

What is reported while the program works: one line each, with a level, a text, and named values in a
fixed order.
-/

namespace QueueJournal

/-- Something worth reporting. -/
inductive Notice where
  /-- A queue was closed and discarded so many items. -/
  | queueClosed (discarded : Nat)
  /-- A closed queue refused an item. -/
  | enqueueRejected
  /-- So many items were removed from a queue. -/
  | queueCleared (removed : Nat)
  /-- So many lines of a journal were written. -/
  | journalAppended (lines : Nat)
  /-- A demonstration begins. -/
  | demoStarting (producers consumers items : Nat)
  /-- A producer has put all its items. -/
  | producerDone (worker : String) (accepted refused : Nat)
  /-- A consumer has seen the queue closed. -/
  | consumerDone (worker : String) (consumed : Nat)
  /-- A demonstration is over. -/
  | demoFinished (produced rejected consumed : Nat)
deriving DecidableEq, Repr

namespace Notice

/-- How important a notice is. -/
def level : Notice → String
  | enqueueRejected => "TRACE"
  | demoStarting .. | demoFinished .. => "INFO"
  | _ => "DEBUG"

/-- The text of a notice. -/
def title : Notice → String
  | queueClosed _ => "queue closed"
  | enqueueRejected => "enqueue rejected, queue is closed"
  | queueCleared _ => "queue cleared"
  | journalAppended _ => "journal appended"
  | demoStarting .. => "starting queue demo"
  | producerDone .. => "producer done"
  | consumerDone .. => "consumer done"
  | demoFinished .. => "queue demo finished"

/-- The named values of a notice. -/
def values : Notice → List (String × List Char)
  | queueClosed discarded => [("discarded", Text.decimal discarded)]
  | enqueueRejected => []
  | queueCleared removed => [("removed", Text.decimal removed)]
  | journalAppended lines => [("lines", Text.decimal lines)]
  | demoStarting producers consumers items =>
    [("producers", Text.decimal producers), ("consumers", Text.decimal consumers),
      ("items", Text.decimal items)]
  | producerDone worker accepted refused =>
    [("worker", worker.toList), ("accepted", Text.decimal accepted),
      ("refused", Text.decimal refused)]
  | consumerDone worker consumed =>
    [("worker", worker.toList), ("consumed", Text.decimal consumed)]
  | demoFinished produced rejected consumed =>
    [("produced", Text.decimal produced), ("rejected", Text.decimal rejected),
      ("consumed", Text.decimal consumed)]

/-- The line of a notice, with only those values whose names are wanted. -/
def line (wanted : String → Bool) (n : Notice) : List Char :=
  n.level.toList ++ ' ' :: n.title.toList ++
    (n.values.filter fun (name, _) ↦ wanted name).flatMap fun (name, value) ↦
      ' ' :: name.toList ++ '=' :: value

/-- The line of a notice. -/
def render (n : Notice) : List Char :=
  n.line fun _ ↦ true

end Notice

end QueueJournal
