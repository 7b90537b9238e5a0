import QueueJournal.Proofs.Crowd.History

/-!
# Crowds are linearizable

Threads that call the operations of one queue at the same time, sleeping and waking in between, are
answered as if the calls had been made one after another (`linearizable`): in an order that respects
which calls returned before others were made, and by one queue that keeps to the rules of
`Queue.Effect` and makes a thread wait for an item in a single step (`Queue.Serves`).

The order is the one in which the calls ended under the lock. It respects time since the history of
a crowd is a chronicle (`Chronicle.realTime`), and each call in it does what the one queue would do,
since a thread that has slept looks again whether it must wait (`serves_of_reachable`).
-/

namespace QueueJournal.Crowd

variable {α : Type} {c : Crowd α}

/-- The calls of a crowd that took effect, in an order in which they could have been made one after
another. -/
structure Linearizes (c : Crowd α) [Item α] (order : List (Deed α)) : Prop where
  /-- The order has the calls that took effect. -/
  effective : ∀ deed, deed ∈ order ↔ .done deed ∈ c.history
  /-- It has each of them once. -/
  distinct : (order.map Deed.number).Nodup
  /-- Each was made by its thread. -/
  called : ∀ deed ∈ order, .called deed.number deed.thread deed.call ∈ c.history
  /-- A thread that returned did so with the answer in the order. -/
  answered : ∀ deed, .returned deed ∈ c.history → deed ∈ order
  /-- A call that returned before another was made comes first. -/
  realTime : ∀ a ∈ order, ∀ b ∈ order,
    [.returned a, .called b.number b.thread b.call].Sublist c.history → [a, b].Sublist order
  /-- One queue gives the answers in this order. -/
  serial : Queue.Runs Queue.Serves .empty (order.map fun deed ↦ (deed.call, deed.result)) c.queue

variable [Item α]

/-- While the lock is sound, the deeds are what a queue that serves one thread at a time answers. -/
theorem serves_of_reachable (h : Reachable c) (hsound : c.monitor.poisoned = false) :
    Queue.Runs Queue.Serves .empty c.dealings c.queue := by
  induction h with
  | refl => exact .nil
  | tail _ hstep ih =>
    rcases hstep.ends with ⟨hqueue, hpoisoned, hdeeds⟩ | ⟨deed, hends⟩
    · rw [dealings, hdeeds, hqueue]
      exact ih (hpoisoned ▸ hsound)
    · rw [hends.poisoned, Bool.or_eq_false_iff] at hsound
      rw [dealings, hends.deeds, List.map_append]
      refine (ih hsound.1).snoc (Queue.serves_of_effect hends.effect fun hcall ↦ ?_)
      exact (hends.ready hcall).resolve_right (by simp [hsound.1])

/-- **Crowds are linearizable.** Unless a test has broken off under the lock, the calls that took
effect can be put in an order in which one queue, which serves one thread at a time, gives the same
answers, and in which a call that returned before another was made comes first. -/
theorem linearizable (h : Reachable c)
    (sound : ∀ deed ∈ c.deeds, deed.result.interrupted = false) :
    ∃ order, c.Linearizes order := by
  have hchronicle := (recorded_of_reachable h).chronicle
  have hunpoisoned : c.monitor.poisoned = false := by
    rw [← Bool.not_eq_true, poisoned_iff h]
    rintro ⟨deed, hmem, hinterrupted⟩
    rw [sound deed hmem] at hinterrupted
    cases hinterrupted
  refine ⟨c.deeds, fun _ ↦ mem_deedsOf_iff, hchronicle.nodup_number, ?_, ?_, ?_,
    serves_of_reachable h hunpoisoned⟩
  · exact fun deed hmem ↦ hchronicle.called_of_done (mem_deedsOf_iff.1 hmem)
  · exact fun deed hmem ↦ mem_deedsOf_iff.2 (hchronicle.done_of_returned hmem)
  · exact fun a _ b hb hbefore ↦ hchronicle.realTime hbefore hb

/-- Two threads wait for items, and the one that waited first is answered last. -/
theorem linearizable_overtaking : ∃ c : Crowd String, Reachable c ∧
    (∀ deed ∈ c.deeds, deed.result.interrupted = false) ∧
      (c.deeds.map fun deed ↦ (deed.number, deed.result)) =
        [(2, .index (some 0)), (1, .item (some "a")), (3, .index (some 0)),
          (0, .item (some "b"))] ∧ ∃ order, c.Linearizes order := by
  -- The item that the first thread was signalled for is taken by the second, and it sleeps again.
  have h₁ := (reachable_empty : Reachable (empty : Crowd String))
    |>.step (.make 0 .dequeue rfl) |>.step (.enter 0 0 rfl) |>.step (.make 1 .dequeue rfl)
    |>.step (.make 2 (.enqueue "a") rfl) |>.step (.enter 2 0 rfl) |>.step (.enter 1 0 rfl)
    |>.step (.resume 0 rfl (by decide))
  have h₂ := h₁
    |>.step (.depart 2 rfl) |>.step (.make 2 (.enqueue "b") rfl) |>.step (.enter 2 0 rfl)
    |>.step (.resume 0 rfl (by decide)) |>.step (.depart 0 rfl)
  exact ⟨_, h₂, by decide, rfl, linearizable h₂ (by decide)⟩

end QueueJournal.Crowd
