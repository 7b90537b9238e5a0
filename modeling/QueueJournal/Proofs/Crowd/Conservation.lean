import QueueJournal.Proofs.Crowd.Basic
import QueueJournal.Proofs.Queue.Ledger

/-!
# Items are conserved

Whatever threads do, in any interleaving, each item that was put is in the queue, or was handed out,
removed, cleared or discarded by one call, and items are handed out in the order in which they were
put (`conservation`).
-/

namespace QueueJournal.Crowd

variable {α : Type} [Item α] {c : Crowd α}

/-- **Items are conserved.** In every crowd that can be reached, the ledger of the calls done, in
the order in which they ended under the lock, conserves the items of the queue. -/
theorem conservation (h : Reachable c) : Ledger.Conserved c.dealings c.queue :=
  Ledger.conserved_of_runs (runs_of_reachable h)

/-- Equal items are told apart: one thread loses the first to another and is given the second, and
the third stays when the item behind it is removed. -/
theorem conservation_equal_items : ∃ c : Crowd String, Reachable c ∧ c.queue.items = ["a"] ∧
    (Ledger.ofCalls c.dealings).buffered = [3] ∧ (Ledger.ofCalls c.dealings).delivered = [1, 2] ∧
      Ledger.Conserved c.dealings c.queue := by
  -- A thread sleeps, is signalled for an item, and sleeps again since another thread has taken it.
  have h₁ := (reachable_empty : Reachable (empty : Crowd String))
    |>.step (.make 0 .dequeue rfl) |>.step (.enter 0 0 rfl)
    |>.step (.make 1 (.enqueue "a") rfl) |>.step (.enter 1 0 rfl)
    |>.step (.make 2 .tryDequeue rfl) |>.step (.enter 2 0 rfl)
    |>.step (.resume 0 rfl (by decide))
  -- Three items follow. The thread takes the first of them, and the last is removed.
  have h₂ := h₁
    |>.step (.make 3 (.enqueue "a") rfl) |>.step (.enter 3 0 rfl)
    |>.step (.make 4 (.enqueue "a") rfl) |>.step (.enter 4 0 rfl)
    |>.step (.make 5 (.enqueue "b") rfl) |>.step (.enter 5 0 rfl)
    |>.step (.resume 0 rfl (by decide))
    |>.step (.make 6 (.removeAt 1) rfl) |>.step (.enter 6 0 rfl)
  exact ⟨_, h₂, rfl, rfl, rfl, conservation h₂⟩

end QueueJournal.Crowd
