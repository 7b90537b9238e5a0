import QueueJournal.Queue.Lock
import QueueJournal.Queue.Search

/-!
# A queue shared by threads

Threads work on a shared queue one critical section at a time, each with the guard of its lock. A
thread that asks for an item while the queue is empty and open falls asleep, which gives the lock to
others. Putting an item signals one of the sleeping threads and closing signals all of them; a
thread may also wake for no reason. A signalled thread looks at the queue again once it has the
lock, and another thread may have been there first: it then falls asleep again.

A search whose test breaks off does so with the guard in hand, and poisons the lock. Everybody goes
on taking the lock, and a thread notices nothing, unless it wakes: if it is then told that the lock
is poisoned, it does not look again whether it must wait.
-/

namespace QueueJournal

/-- A queue behind a lock, with the threads that wait for its items. -/
structure Monitor (α : Type) extends Lock α where
  /-- The threads that are asleep, the longest first. -/
  parked : List Nat
  /-- The threads that have been woken and have not had the lock since. -/
  signalled : List Nat

/-- How a thread that asks for an item leaves a critical section. -/
inductive Turn (α : Type) where
  /-- It falls asleep. -/
  | parks
  /-- It returns with an item, or with none. -/
  | returns (item : Option α)

namespace Monitor

variable {α β : Type}

/-- A new queue without threads. -/
def empty : Monitor α := ⟨⟨.empty, false⟩, [], []⟩

/-! ### Signals -/

/-- Signals a sleeping thread. -/
def wake (m : Monitor α) (thread : Nat) : Monitor α :=
  if thread ∈ m.parked then
    { m with parked := m.parked.erase thread, signalled := m.signalled ++ [thread] }
  else m

/-- Signals one of the sleeping threads if there are any: the one at position `pick`, or the first
where there are fewer. -/
def notifyOne (m : Monitor α) (pick : Nat) : Monitor α :=
  match m.parked[pick]? <|> m.parked.head? with
  | none => m
  | some thread => m.wake thread

/-- Signals all sleeping threads. -/
def notifyAll (m : Monitor α) : Monitor α :=
  { m with parked := [], signalled := m.signalled ++ m.parked }

/-! ### Critical sections -/

/-- A thread takes the lock and does something with the guard. -/
def locked (m : Monitor α) (broken : β → Bool) (body : Guard α → β × Guard α) : β × Monitor α :=
  let (b, lock) := m.run broken body
  (b, { m with toLock := lock })

/-- A thread runs an operation of the queue that neither waits nor signals nor breaks off. -/
def onQueue (m : Monitor α) (f : Queue α → β × Queue α) : β × Monitor α :=
  m.locked (fun _ ↦ false) (Guard.modify f)

/-- A thread looks at the queue. -/
def look (m : Monitor α) (f : Queue α → β) : β × Monitor α :=
  m.onQueue fun q ↦ (f q, q)

/-- A thread falls asleep, which drops its guard. -/
def park (m : Monitor α) (thread : Nat) (g : Guard α) : Monitor α :=
  { m with toLock := m.release g false, parked := m.parked ++ [thread] }

/-- A thread that does not wait returns with the item at the head, if there is one. -/
def take (m : Monitor α) (g : Guard α) : Turn α × Monitor α :=
  let (item, g) := g.modify Queue.tryDequeue
  (.returns item, { m with toLock := m.release g false })

/-- A thread asks for an item, and waits if it must. -/
def dequeue (m : Monitor α) (thread : Nat) : Turn α × Monitor α :=
  let g := m.guard
  if g.queue.mustWait then (.parks, m.park thread g) else m.take g

/-- A signalled thread takes the lock again. It looks whether it must wait on, unless it is told
that the lock is poisoned. -/
def resume (m : Monitor α) (thread : Nat) : Turn α × Monitor α :=
  let m := { m with signalled := m.signalled.erase thread }
  match m.acquire with
  | .ok g => if g.queue.mustWait then (.parks, m.park thread g) else m.take g
  | .error g => m.take g

/-- A thread puts an item, which signals a sleeping thread unless the queue refuses. -/
def enqueue [Item α] (m : Monitor α) (a : α) (pick : Nat) : Option Nat × Monitor α :=
  match m.onQueue fun q ↦ q.enqueue a with
  | (none, m) => (none, m)
  | (some index, m) => (some index, m.notifyOne pick)

/-- A thread closes the queue, which signals all sleeping threads unless it was closed already. -/
def close (m : Monitor α) : Option Nat × Monitor α :=
  match m.onQueue Queue.close with
  | (none, m) => (none, m)
  | (some discarded, m) => (some discarded, m.notifyAll)

/-- A thread removes the item at an index. An index out of range breaks it off. -/
def removeAt (m : Monitor α) (index : Nat) : Except Queue.OutOfRange Nat × Monitor α :=
  m.locked (!·.isOk) (Guard.removeAt index)

/-- A thread searches the queue with a test, which may break off. -/
def search (m : Monitor α) (probe : Probe α) : Finding × Monitor α :=
  m.locked Finding.isInterrupted (Guard.modify fun q ↦ (q.search probe, q))

/-! What a thread does under the lock, in terms of the queue. -/

theorem onQueue_eq (m : Monitor α) (f : Queue α → β × Queue α) :
    m.onQueue f = ((f m.queue).1, { m with queue := (f m.queue).2 }) := by
  rw [onQueue, locked, Lock.run_modify]

theorem look_eq (m : Monitor α) (f : Queue α → β) : m.look f = (f m.queue, m) :=
  m.onQueue_eq _

theorem enqueue_eq [Item α] (m : Monitor α) (a : α) (pick : Nat) : m.enqueue a pick =
    match m.queue.enqueue a with
    | (none, queue) => (none, { m with queue })
    | (some index, queue) => (some index, { m with queue }.notifyOne pick) := by
  rw [enqueue, onQueue_eq]
  rcases m.queue.enqueue a with ⟨_ | index, queue⟩ <;> rfl

theorem close_eq (m : Monitor α) : m.close =
    match m.queue.close with
    | (none, queue) => (none, { m with queue })
    | (some discarded, queue) => (some discarded, { m with queue }.notifyAll) := by
  rw [close, onQueue_eq]
  rcases m.queue.close with ⟨_ | discarded, queue⟩ <;> rfl

theorem dequeue_eq (m : Monitor α) (thread : Nat) : m.dequeue thread =
    if m.queue.mustWait then (.parks, { m with parked := m.parked ++ [thread] })
    else (.returns m.queue.tryDequeue.1, { m with queue := m.queue.tryDequeue.2 }) := by
  simp [dequeue, park, take, Guard.modify, Lock.release]

theorem resume_eq (m : Monitor α) (thread : Nat) : m.resume thread =
    if m.queue.mustWait && !m.poisoned then
      (.parks, { m with
        parked := m.parked ++ [thread], signalled := m.signalled.erase thread })
    else
      (.returns m.queue.tryDequeue.1, { m with
        queue := m.queue.tryDequeue.2, signalled := m.signalled.erase thread }) := by
  obtain ⟨⟨queue, poisoned⟩, parked, signalled⟩ := m
  cases poisoned <;> simp [resume, Lock.acquire, park, take, Guard.modify, Lock.release]

/-- A removal at an index in range goes through. -/
theorem removeAt_of_lt {m : Monitor α} {index : Nat} (h : index < m.queue.length) :
    m.removeAt index = (.ok (m.queue.length - 1),
      { m with queue := { m.queue with items := m.queue.items.eraseIdx index } }) := by
  simp [removeAt, locked, Lock.run, Lock.release, Guard.removeAt_of_lt h, Except.isOk,
    Except.toBool]

/-- A removal at an index out of range changes nothing. The guard is dropped when it breaks off, so
the lock is as sound as before. -/
theorem removeAt_of_le {m : Monitor α} {index : Nat} (h : m.queue.length ≤ index) :
    m.removeAt index = (.error ⟨index, m.queue.length⟩, m) := by
  simp [removeAt, locked, Lock.run, Lock.release, Guard.removeAt_of_le h]

theorem search_eq (m : Monitor α) (probe : Probe α) : m.search probe =
    (m.queue.search probe,
      { m with poisoned := m.poisoned || (m.queue.search probe).isInterrupted }) := by
  simp [search, locked, Lock.run, Lock.release, Guard.modify]

/-! ### Letting signalled threads run -/

/-- Lets threads that have been signalled have the lock one after the other. Gives those that
return, with their answers, in that order. -/
def resumeAll (m : Monitor α) : List Nat → List (Nat × Option α) × Monitor α
  | [] => ([], m)
  | thread :: threads =>
    match m.resume thread with
    | (.parks, m) => m.resumeAll threads
    | (.returns item, m) =>
      let (answers, m) := m.resumeAll threads
      ((thread, item) :: answers, m)

/-- Lets every signalled thread have the lock once. -/
def deliver (m : Monitor α) : List (Nat × Option α) × Monitor α :=
  m.resumeAll m.signalled

end Monitor

end QueueJournal
