import QueueJournal.Proofs.Monitor.Section

/-!
# Sleeping threads are attended to

An item that is put signals one thread only, and that thread may find the item gone. Still no item
is left to sleeping threads: a monitor is *attended* when a thread sleeps only while the queue is
open and holds no more items than threads have been signalled. Each of those takes one item or finds
none, so the count never falls behind.

Every critical section keeps a monitor attended (`Attended.ends`, `Attended.endsLate`,
`attended_of_mustWait`), and so does waking for no reason (`Attended.wake`), whether the lock is
poisoned or not.
-/

namespace QueueJournal.Monitor

variable {α : Type} {m m' : Monitor α} {thread pick : Nat} {call : Call α} {result : Result α}

/-- A thread sleeps only while the queue is open and no item is left over from the threads that have
been signalled. -/
def Attended (m : Monitor α) : Prop :=
  m.parked ≠ [] → m.queue.closed = false ∧ m.queue.items.length ≤ m.signalled.length

theorem attended_empty : (empty : Monitor α).Attended := fun h ↦ absurd rfl h

/-- A thread that falls asleep finds the queue open and empty. -/
theorem attended_of_mustWait (hwait : m.queue.mustWait = true) : m.Attended := fun _ ↦ by
  obtain ⟨hitems, hopen⟩ := Queue.mustWait_iff.1 hwait
  exact ⟨hopen, by simp [hitems]⟩

theorem Attended.wake (h : m.Attended) (hmem : thread ∈ m.parked) : (m.wake thread).Attended := by
  intro _
  obtain ⟨hopen, hle⟩ := h (List.ne_nil_of_mem hmem)
  rw [wake_eq hmem]
  exact ⟨hopen, by rw [List.length_append]; exact Nat.le_add_right_of_le hle⟩

variable [Item α]

/-- A call that gives off no signals puts no item and closes no queue. -/
theorem signal_cases (h : Queue.Effect m.queue call result m'.queue) (pick : Nat) :
    (m.signal pick call result = m ∧ m'.queue.closed = m.queue.closed ∧
        m'.queue.items.length ≤ m.queue.items.length) ∨
      (m.signal pick call result = m.notifyOne pick ∧ m'.queue.closed = false ∧
        m.queue.closed = false ∧ m'.queue.items.length = m.queue.items.length + 1) ∨
      m.signal pick call result = m.notifyAll := by
  generalize m'.queue = q' at h
  cases h with
  | accepts a isOpen => exact .inr (.inl ⟨rfl, rfl, isOpen, by simp⟩)
  | refuses a isClosed => exact .inl ⟨rfl, rfl, Nat.le_refl _⟩
  | gives taking isOpen head =>
    refine .inl ⟨?_, rfl, by simp [head]⟩
    rcases taking with rfl | rfl <;> rfl
  | lacks taking lacking =>
    refine .inl ⟨?_, rfl, Nat.le_refl _⟩
    rcases taking with rfl | rfl <;> rfl
  | removes inRange => exact .inl ⟨rfl, rfl, List.length_eraseIdx_le ..⟩
  | removesNothing => exact .inl ⟨rfl, rfl, Nat.le_refl _⟩
  | triesRemoving inRange => exact .inl ⟨rfl, rfl, List.length_eraseIdx_le ..⟩
  | triesInVain => exact .inl ⟨rfl, rfl, Nat.le_refl _⟩
  | clears => exact .inl ⟨rfl, rfl, Nat.zero_le _⟩
  | closes isOpen => exact .inr (.inr rfl)
  | staysClosed isClosed => exact .inl ⟨rfl, rfl, Nat.le_refl _⟩
  | reads answer =>
    refine .inl ⟨?_, rfl, Nat.le_refl _⟩
    cases call <;> first | rfl | simp [Queue.read?] at answer

/-- **A call that ends leaves the monitor attended.** An item that is put is matched by a thread
that is signalled, unless none sleeps. -/
theorem Attended.ends (h : m.Attended) (hends : m.Ends pick call result m') : m'.Attended := by
  intro hparked
  rw [hends.parked] at hparked
  rw [hends.signalled]
  rcases signal_cases hends.effect pick with
    ⟨hsignal, hclosed, hlength⟩ | ⟨hsignal, hclosed, -, hlength⟩ | hsignal
  · -- No thread is signalled, and no item has come.
    rw [hsignal] at hparked ⊢
    obtain ⟨hopen, hle⟩ := h hparked
    exact ⟨hclosed ▸ hopen, Nat.le_trans hlength hle⟩
  · -- One thread more is signalled, and one item has come.
    rw [hsignal] at hparked ⊢
    rcases m.notifyOne_cases pick with ⟨hnil, heq⟩ | ⟨thread, hmem, heq⟩
    · rw [heq] at hparked
      exact absurd hnil hparked
    · obtain ⟨-, hle⟩ := h (List.ne_nil_of_mem hmem)
      refine ⟨hclosed, ?_⟩
      rw [heq, wake_eq hmem, hlength, List.length_append]
      exact Nat.succ_le_succ hle
  · -- No thread sleeps on.
    rw [hsignal] at hparked
    exact absurd rfl hparked

/-- **A thread that has slept leaves the monitor attended when its call ends.** It takes an item, or
there was none. -/
theorem Attended.endsLate (h : m.Attended) (hends : m.EndsLate thread result m') : m'.Attended := by
  intro hparked
  rw [hends.parked] at hparked
  obtain ⟨hopen, hle⟩ := h hparked
  -- One thread at most is signalled no longer, and it takes an item if there is one.
  have herase : m.signalled.length ≤ m'.signalled.length + 1 := by
    rw [hends.signalled, List.length_erase]
    split <;> omega
  rcases hends.effect.of_takes (.inl rfl) with ⟨a, items, -, head, -, hqueue⟩ | ⟨lacking, -, hqueue⟩
  · rw [head, List.length_cons] at hle
    rw [hqueue]
    exact ⟨hopen, by simp only; omega⟩
  · rw [hqueue]
    rcases lacking with hclosed | hnil
    · simp [hopen] at hclosed
    · exact ⟨hopen, by simp [hnil]⟩

end QueueJournal.Monitor
