import QueueJournal.Queue.Basic

/-!
# A queue behind a lock

Threads work on a shared queue one at a time. A thread that has the lock has a *guard*, through
which it sees and changes the queue until it drops it. A thread that breaks off while it still has
the guard drops it on the way out, which *poisons* the lock.

Whoever takes a poisoned lock is told, and is given the guard all the same (`Lock.acquire`). An
operation of the queue does not mind and takes the guard as it comes (`Lock.guard`), since none
hands the queue to others in a state that it should not be in.

A removal that is given an index out of range breaks off too, but it drops the guard first
(`Guard.removeAt`).
-/

namespace QueueJournal

/-- A queue behind a lock. -/
structure Lock (α : Type) where
  /-- The queue. -/
  queue : Queue α
  /-- Whether a thread has broken off while it had the guard. -/
  poisoned : Bool

/-- What a thread that has the lock sees and changes the queue through. -/
structure Guard (α : Type) where
  /-- The queue. -/
  queue : Queue α
  /-- Whether the thread still has the guard. -/
  held : Bool

variable {α β : Type}

namespace Guard

/-- Drops the guard. -/
def drop (g : Guard α) : Guard α :=
  { g with held := false }

/-- Runs an operation of the queue. -/
def modify (f : Queue α → β × Queue α) (g : Guard α) : β × Guard α :=
  let (b, queue) := f g.queue
  (b, { g with queue })

/-- Removes the item at an index and answers with the new length. An index out of range is an error:
the thread drops the guard, and breaks off then. -/
def removeAt (index : Nat) (g : Guard α) : Except Queue.OutOfRange Nat × Guard α :=
  let length := g.queue.length
  match g.queue.remove index with
  | (none, queue) => (.error ⟨index, length⟩, { g with queue }.drop)
  | (some _, queue) => (.ok queue.length, { g with queue })

/-- An index in range leaves one item fewer, and the guard in hand. -/
theorem removeAt_of_lt {q : Queue α} {held : Bool} {index : Nat} (h : index < q.length) :
    (mk q held).removeAt index =
      (.ok (q.length - 1), ⟨{ q with items := q.items.eraseIdx index }, held⟩) := by
  simp only [removeAt, Queue.remove_of_lt h, Queue.length, List.length_eraseIdx_of_lt h]

/-- An index out of range changes nothing, and the guard is dropped. -/
theorem removeAt_of_le {q : Queue α} {held : Bool} {index : Nat} (h : q.length ≤ index) :
    (mk q held).removeAt index = (.error ⟨index, q.length⟩, ⟨q, false⟩) := by
  simp only [removeAt, Queue.remove_of_le h, drop]

end Guard

namespace Lock

/-- Takes the lock. The guard of a poisoned lock comes as an error. -/
def acquire (l : Lock α) : Except (Guard α) (Guard α) :=
  if l.poisoned then .error ⟨l.queue, true⟩ else .ok ⟨l.queue, true⟩

/-- Takes the lock, poisoned or not. -/
def guard (l : Lock α) : Guard α :=
  match l.acquire with
  | .ok g => g
  | .error g => g

/-- The lock when a thread is done with its guard. If the thread has not dropped it by then, it is
dropped now; if the thread has broken off, that poisons the lock. -/
def release (l : Lock α) (g : Guard α) (broken : Bool) : Lock α where
  queue := g.queue
  poisoned := l.poisoned || (g.held && broken)

/-- A thread takes the lock and does something with the guard. What it comes to may tell that it has
broken off. -/
def run (l : Lock α) (broken : β → Bool) (body : Guard α → β × Guard α) : β × Lock α :=
  let (b, g) := body l.guard
  (b, l.release g (broken b))

@[simp]
theorem guard_eq (l : Lock α) : l.guard = ⟨l.queue, true⟩ := by
  rw [guard, acquire]
  cases l.poisoned <;> rfl

/-- An operation that does not break off leaves the lock as sound as it was. -/
theorem run_modify (l : Lock α) (f : Queue α → β × Queue α) :
    l.run (fun _ ↦ false) (Guard.modify f) = ((f l.queue).1, ⟨(f l.queue).2, l.poisoned⟩) := by
  simp [run, release, Guard.modify]

end Lock

end QueueJournal
