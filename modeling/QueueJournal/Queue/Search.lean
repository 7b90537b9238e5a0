import QueueJournal.Queue.Basic

/-!
# Searching a queue

A queue is searched from head to tail with a test that may remember what it was asked before, and
that may break off instead of answering. Each item is tested at most once, and the first that passes
ends the search.
-/

namespace QueueJournal

/-- What a test makes of an item. -/
inductive Verdict where
  /-- The item passes. -/
  | yes
  /-- The item fails. -/
  | no
  /-- The test breaks off. -/
  | panic
deriving DecidableEq, Repr

/-- A test of items, which may depend on the items it was asked about before, the latest first. -/
abbrev Probe (α : Type) := List α → α → Verdict

/-- How a search ended. -/
inductive Finding where
  /-- The item at this index passed. -/
  | found (index : Nat)
  /-- All items failed. -/
  | absent
  /-- The test broke off at this index. -/
  | interrupted (index : Nat)
deriving DecidableEq, Repr

namespace Finding

/-- The index of the item that passed. -/
def index? : Finding → Option Nat
  | found index => some index
  | _ => none

/-- Whether the test broke off. -/
def isInterrupted : Finding → Bool
  | interrupted _ => true
  | _ => false

/-- How often the test was asked, in a list of so many items. -/
def calls (total : Nat) : Finding → Nat
  | found index => index + 1
  | absent => total
  | interrupted index => index + 1

end Finding

/-- Tests items in order, where `before` are the items that were tested already, the latest first.
-/
def Probe.run {α : Type} (probe : Probe α) (before : List α) : List α → Finding
  | [] => .absent
  | a :: items =>
    match probe before a with
    | .yes => .found before.length
    | .panic => .interrupted before.length
    | .no => probe.run (a :: before) items

/-- The test that asks for an item equal to the target. -/
def Probe.equals {α : Type} [Item α] (target : α) : Probe α :=
  fun _ a ↦ if Item.same a target then .yes else .no

namespace Queue

variable {α : Type}

/-- Searches the queue with a test. -/
def search (q : Queue α) (probe : Probe α) : Finding :=
  probe.run [] q.items

/-- The index of the first item that equals the target. -/
def indexOf [Item α] (q : Queue α) (target : α) : Option Nat :=
  (q.search (.equals target)).index?

end Queue

end QueueJournal
