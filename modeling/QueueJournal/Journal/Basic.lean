import QueueJournal.Event.Basic

/-!
# Journals

A journal is the list of the events that were recorded in it, the oldest first. Events are only ever
added.
-/

namespace QueueJournal

/-- An append-only record of events. -/
structure Journal (α : Type) where
  /-- The events, the oldest first. -/
  entries : List (Event α)

namespace Journal

variable {α : Type}

/-- A journal without events. -/
def empty : Journal α := ⟨[]⟩

/-- Adds an event. -/
def record (j : Journal α) (event : Event α) : Journal α :=
  ⟨j.entries ++ [event]⟩

/-- How many events there are. -/
def length (j : Journal α) : Nat :=
  j.entries.length

/-- Whether there are no events. -/
def isEmpty (j : Journal α) : Bool :=
  j.entries.isEmpty

/-- How many accepted events of an operation there are. -/
def count (j : Journal α) (op : Operation) : Nat :=
  j.entries.countP fun e ↦ e.operation == op && e.accepted

/-- The events of one worker, the oldest first. -/
def entriesOf (j : Journal α) (worker : String) : List (Event α) :=
  j.entries.filter fun e ↦ e.worker == worker

@[simp]
theorem entries_empty : (empty : Journal α).entries = [] := rfl

@[simp]
theorem entries_record (j : Journal α) (event : Event α) :
    (j.record event).entries = j.entries ++ [event] := rfl

@[simp]
theorem length_record (j : Journal α) (event : Event α) :
    (j.record event).length = j.length + 1 := by
  simp [length]

end Journal

end QueueJournal
