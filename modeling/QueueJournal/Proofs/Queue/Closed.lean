import QueueJournal.Notice
import QueueJournal.Proofs.Queue.Effect

/-!
# Closed queues

There is only one closed queue: `Queue.shut`, without items and without a buffer
(`Effect.eq_shut`). It answers each call in one way (`Call.refusal`), in which no item is shown, and
no call changes it (`Effect.of_shut`).
-/

namespace QueueJournal

variable {α : Type}

/-- A queue that has been closed. -/
def Queue.shut : Queue α := ⟨[], true, 0⟩

/-- What a closed queue answers to a call. -/
def Call.refusal : Call α → Result α
  | .enqueue _ => .index none
  | .dequeue => .item none
  | .tryDequeue => .item none
  | .removeAt index => .removal (.error ⟨index, 0⟩)
  | .tryRemoveAt _ => .remaining none
  | .clear => .count 0
  | .close => .closed none
  | .search _ => .finding .absent
  | .indexOf _ => .index none
  | .items => .items []
  | .length => .count 0
  | .isEmpty => .flag true
  | .isClosed => .flag true
  | .capacity => .count 0
  | .display view pretty => .text ((Queue.shut : Queue α).display view pretty)

/-- The items that are shown by an answer. -/
def Result.shown : Result α → List α
  | .item given => given.toList
  | .items all => all
  | _ => []

/-- What is reported when a call is answered. -/
def notice? : Call α → Result α → Option Notice
  | .enqueue _, .index none => some .enqueueRejected
  | .clear, .count removed => some (.queueCleared removed)
  | .close, .closed (some discarded) => some (.queueClosed discarded)
  | _, _ => none

@[simp]
theorem Call.shown_refusal (call : Call α) : call.refusal.shown = [] := by
  cases call <;> rfl

namespace Queue

@[simp]
theorem mustWait_shut : (shut : Queue α).mustWait = false := rfl

variable [Item α] {q q' : Queue α} {call : Call α} {result : Result α}

/-- A closed queue does nothing but refuse. -/
theorem perform_shut (call : Call α) : (shut : Queue α).perform call = (call.refusal, shut) := by
  cases call <;> rfl

/-- **No call changes a closed queue**, and each is refused. -/
theorem Effect.of_shut (h : Effect shut call result q') : result = call.refusal ∧ q' = shut := by
  have hperform := h.perform_eq
  rw [perform_shut, Prod.mk.injEq] at hperform
  exact ⟨hperform.1.symm, hperform.2.symm⟩

/-- A queue is closed by a closing call, and by nothing else. -/
theorem Effect.closed_iff (h : Effect q call result q') :
    q'.closed = true ↔ q.closed = true ∨ call = .close := by
  cases h with
  | gives taking => rcases taking with rfl | rfl <;> simp
  | lacks taking => rcases taking with rfl | rfl <;> simp
  | reads answer => cases call <;> simp_all [read?]
  | _ => simp_all

/-- **A queue that has been closed is empty and holds no buffer**, if that was so before. -/
theorem Effect.eq_shut (h : Effect q call result q') (hbefore : q.closed = true → q = shut)
    (hclosed : q'.closed = true) : q' = shut := by
  rcases h.closed_iff.1 hclosed with hold | rfl
  · obtain rfl := hbefore hold
    exact h.of_shut.2
  · cases hq : q.closed with
    | true =>
      obtain rfl := hbefore hq
      exact h.of_shut.2
    | false =>
      cases h with
      | closes => rfl
      | staysClosed isClosed => simp [hq] at isClosed
      | reads answer => simp [read?] at answer
      | gives taking => rcases taking with h | h <;> simp at h
      | lacks taking => rcases taking with h | h <;> simp at h

end Queue

end QueueJournal
