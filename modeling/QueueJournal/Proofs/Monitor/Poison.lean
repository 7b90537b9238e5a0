import QueueJournal.Proofs.Monitor.Section

/-!
# A poisoned lock

A test that breaks off under the lock poisons it, and nothing else becomes of the monitor
(`Ends.eq_poison`). The guard of a poisoned lock is the same as that of a sound one, so what a
thread does with it comes to the same (`locked_poison`). Only a thread that has slept looks at the
poison. One that begins a call does the same with it as without it (`act_poison`), so a thread that
makes calls one after the other, and never has to wait, is answered alike (`serve_poison`).
-/

namespace QueueJournal.Monitor

variable {α β : Type}

/-- **What is done under the lock does not depend on the poison.** -/
theorem locked_poison (m : Monitor α) (poisoned : Bool) (broken : β → Bool)
    (body : Guard α → β × Guard α) : (m.poison poisoned).locked broken body =
      ((m.locked broken body).1, (m.locked broken body).2.poison poisoned) := by
  simp [locked, Lock.run, Lock.release, poison, Bool.or_right_comm]

theorem onQueue_poison (m : Monitor α) (poisoned : Bool) (f : Queue α → β × Queue α) :
    (m.poison poisoned).onQueue f =
      ((m.onQueue f).1, (m.onQueue f).2.poison poisoned) :=
  m.locked_poison ..

/-- Which threads are signalled does not depend on the poison. -/
theorem notifyOne_poison (m : Monitor α) (broken : Bool) (pick : Nat) :
    (m.poison broken).notifyOne pick = (m.notifyOne pick).poison broken := by
  simp only [notifyOne, poison]
  split
  · rfl
  · simp only [wake]
    split <;> rfl

variable [Item α]

/-- **A thread that begins a call does not look at the poison.** -/
theorem act_poison (m : Monitor α) (broken : Bool) (thread pick : Nat) (call : Call α) :
    (m.poison broken).act thread pick call =
      ((m.act thread pick call).1, (m.act thread pick call).2.poison broken) := by
  cases call with
  | enqueue a =>
    rw [act, act, Monitor.enqueue, Monitor.enqueue, onQueue_poison]
    rcases m.onQueue fun q ↦ q.enqueue a with ⟨_ | index, m'⟩
    · rfl
    · simp only [notifyOne_poison]
  | dequeue =>
    cases hwait : m.queue.mustWait with
    | true => simp [act, dequeue_eq, hwait, poison]
    | false =>
      rw [act_dequeue hwait, act_dequeue (m.poison_queue broken ▸ hwait)]
      rfl
  | close =>
    rw [act, act, Monitor.close, Monitor.close, onQueue_poison]
    rcases m.onQueue Queue.close with ⟨_ | discarded, m'⟩ <;> rfl
  | removeAt index => rw [act, act, Monitor.removeAt, locked_poison]; rfl
  | search probe => rw [act, act, Monitor.search, locked_poison]; rfl
  | tryDequeue | tryRemoveAt | clear => rw [act, act, onQueue_poison]
  | _ => rw [act, act, look, onQueue_poison]; rfl

/-- Serves a thread that makes calls one after the other, each with the position of the sleeping
thread that it would signal, unless the thread has to wait. -/
def serve (m : Monitor α) (thread : Nat) :
    List (Nat × Call α) → Option (List (Result α) × Monitor α)
  | [] => some ([], m)
  | (pick, call) :: calls =>
    match m.act thread pick call with
    | (none, _) => none
    | (some result, m) => (m.serve thread calls).map fun (results, m) ↦ (result :: results, m)

/-- **A thread is served alike under a poisoned lock.** -/
theorem serve_poison (m : Monitor α) (broken : Bool) (thread : Nat) (calls : List (Nat × Call α)) :
    (m.poison broken).serve thread calls =
      (m.serve thread calls).map (Prod.map id (·.poison broken)) := by
  induction calls generalizing m with
  | nil => rfl
  | cons first calls ih =>
    rw [serve, serve, act_poison]
    rcases m.act thread first.1 first.2 with ⟨_ | result, m'⟩
    · rfl
    · simp only [ih, Option.map_map]
      rfl

end QueueJournal.Monitor
