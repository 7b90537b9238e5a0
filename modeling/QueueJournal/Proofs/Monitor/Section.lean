import QueueJournal.Monitor
import QueueJournal.Proofs.Queue.Effect

/-!
# Critical sections

`Monitor.act` is the critical section in which a thread begins a call, and `Monitor.retake` the one
in which a thread that has slept goes on with its call. In either the thread falls asleep or ends
its call. What these sections do is said once, outcome by outcome (`act_sleeps`, `act_ends`,
`retake_sleeps`, `retake_ends`); later modules cite these four and do not open the operations.

The threads that wait are the sleeping ones and those that were signalled. Signals move threads from
one list to the other (`waiting_notifyOne`, `waiting_notifyAll`, `waiting_wake`).
-/

namespace QueueJournal

/-- What a thread is answered at the end of a critical section, unless it falls asleep. -/
def Turn.result? {α : Type} : Turn α → Option (Result α)
  | parks => none
  | returns item => some (.item item)

namespace Monitor

variable {α : Type} {m m' : Monitor α} {thread pick : Nat} {call : Call α} {result : Result α}

/-! ### Signals -/

/-- The threads that sleep or have been signalled. -/
def waiting (m : Monitor α) : List Nat :=
  m.parked ++ m.signalled

theorem wake_eq (h : thread ∈ m.parked) :
    m.wake thread =
      { m with parked := m.parked.erase thread, signalled := m.signalled ++ [thread] } :=
  if_pos h

/-- A thread is signalled if any sleeps. -/
theorem notifyOne_cases (m : Monitor α) (pick : Nat) :
    (m.parked = [] ∧ m.notifyOne pick = m) ∨
      ∃ thread ∈ m.parked, m.notifyOne pick = m.wake thread := by
  rw [notifyOne]
  cases hpick : m.parked[pick]? with
  | some thread => exact .inr ⟨thread, List.mem_of_getElem? hpick, rfl⟩
  | none =>
    cases hparked : m.parked with
    | nil => exact .inl ⟨rfl, rfl⟩
    | cons first others => exact .inr ⟨first, by simp, rfl⟩

theorem waiting_wake (h : thread ∈ m.parked) : (m.wake thread).waiting.Perm m.waiting := by
  rw [wake_eq h, waiting, waiting]
  calc m.parked.erase thread ++ (m.signalled ++ [thread])
      = (m.parked.erase thread ++ m.signalled) ++ [thread] := (List.append_assoc ..).symm
    _ |>.Perm (thread :: (m.parked.erase thread ++ m.signalled)) := List.perm_append_singleton ..
    _ |>.Perm (m.parked ++ m.signalled) := ((List.perm_cons_erase h).append_right _).symm

theorem waiting_notifyOne (m : Monitor α) (pick : Nat) :
    (m.notifyOne pick).waiting.Perm m.waiting := by
  rcases m.notifyOne_cases pick with ⟨-, heq⟩ | ⟨thread, hmem, heq⟩
  · rw [heq]
  · rw [heq]
    exact waiting_wake hmem

theorem waiting_notifyAll (m : Monitor α) : m.notifyAll.waiting.Perm m.waiting := by
  rw [waiting, waiting, notifyAll, List.nil_append]
  exact List.perm_append_comm

/-- The signals that a call gives off when it ends: an item that is put signals one thread, and a
queue that is closed signals all. -/
def signal (m : Monitor α) (pick : Nat) : Call α → Result α → Monitor α
  | .enqueue _, .index (some _) => m.notifyOne pick
  | .close, .closed (some _) => m.notifyAll
  | _, _ => m

theorem waiting_signal (m : Monitor α) (pick : Nat) (call : Call α) (result : Result α) :
    (m.signal pick call result).waiting.Perm m.waiting := by
  fun_cases signal m pick call result
  · exact m.waiting_notifyOne pick
  · exact m.waiting_notifyAll
  · exact .rfl

/-- Which threads are signalled does not depend on the queue. -/
theorem notifyOne_withQueue (m : Monitor α) (queue : Queue α) (pick : Nat) :
    { m with queue }.notifyOne pick = { m.notifyOne pick with queue } := by
  simp only [notifyOne]
  split
  · rfl
  · simp only [wake]
    split <;> rfl

@[simp]
theorem notifyOne_poisoned (m : Monitor α) (pick : Nat) :
    (m.notifyOne pick).poisoned = m.poisoned := by
  rcases m.notifyOne_cases pick with ⟨-, heq⟩ | ⟨thread, hmem, heq⟩
  · rw [heq]
  · rw [heq, wake_eq hmem]

/-- The monitor once a test has been done under the lock, which may have broken off. -/
def poison (m : Monitor α) (broken : Bool) : Monitor α :=
  { m with poisoned := m.poisoned || broken }

@[simp]
theorem poison_queue (m : Monitor α) (broken : Bool) : (m.poison broken).queue = m.queue := rfl

/-! ### The two kinds of critical section -/

/-- The answer of an operation to the thread that called it. -/
abbrev answer {β : Type} (result : β → Result α) (outcome : β × Monitor α) :
    Option (Result α) × Monitor α :=
  (some (result outcome.1), outcome.2)

/-- The critical section in which a thread begins a call: what it is answered, unless it falls
asleep. An item that it puts signals the sleeping thread at position `pick`. -/
def act [Item α] (m : Monitor α) (thread pick : Nat) : Call α → Option (Result α) × Monitor α
  | .enqueue a => answer .index (m.enqueue a pick)
  | .dequeue => ((m.dequeue thread).1.result?, (m.dequeue thread).2)
  | .tryDequeue => answer .item (m.onQueue Queue.tryDequeue)
  | .removeAt index => answer .removal (m.removeAt index)
  | .tryRemoveAt index => answer .remaining (m.onQueue fun q ↦ q.tryRemoveAt index)
  | .clear => answer .count (m.onQueue Queue.clear)
  | .close => answer .closed m.close
  | .search probe => answer .finding (m.search probe)
  | .indexOf target => answer .index (m.look fun q ↦ q.indexOf target)
  | .items => answer .items (m.look Queue.items)
  | .length => answer .count (m.look Queue.length)
  | .isEmpty => answer .flag (m.look Queue.isEmpty)
  | .isClosed => answer .flag (m.look Queue.closed)
  | .capacity => answer .count (m.look Queue.capacity)
  | .display view pretty => answer .text (m.look fun q ↦ q.display view pretty)

/-- The critical section in which a thread that has slept has the lock again. -/
def retake (m : Monitor α) (thread : Nat) : Option (Result α) × Monitor α :=
  ((m.resume thread).1.result?, (m.resume thread).2)

variable [Item α]

/-- A thread falls asleep only when it waits for an item and must. -/
theorem act_sleeps (h : m.act thread pick call = (none, m')) :
    call = .dequeue ∧ m.queue.mustWait = true ∧ m' = { m with parked := m.parked ++ [thread] } := by
  cases call with
  | dequeue =>
    rw [act, dequeue_eq] at h
    split at h
    · exact ⟨rfl, by assumption, by simpa [Turn.result?] using h.symm⟩
    · simp [Turn.result?] at h
  | _ => simp [act] at h

/-- How a call ends in the critical section in which it was begun. -/
structure Ends (m : Monitor α) (pick : Nat) (call : Call α) (result : Result α) (m' : Monitor α) :
    Prop where
  /-- The call has its effect on the queue. -/
  effect : Queue.Effect m.queue call result m'.queue
  /-- A thread that must wait for an item does not end its call. -/
  ready : call = .dequeue → m.queue.mustWait = false
  /-- The call gives off its signals, so some threads sleep no longer. -/
  parked : m'.parked = (m.signal pick call result).parked
  /-- They are signalled. -/
  signalled : m'.signalled = (m.signal pick call result).signalled
  /-- A test that breaks off poisons the lock. -/
  poisoned : m'.poisoned = (m.poisoned || result.interrupted)

/-- A call that gives off no signals and breaks nothing off only has its effect. -/
theorem ends_of_quiet {q' : Queue α} (quiet : m.signal pick call result = m)
    (sound : result.interrupted = false) (effect : Queue.Effect m.queue call result q')
    (ready : call = .dequeue → m.queue.mustWait = false) :
    m.Ends pick call result { m with queue := q' } where
  effect := effect
  ready := ready
  parked := by rw [quiet]
  signalled := by rw [quiet]
  poisoned := by simp [sound]

/-- A call that gives off no signals and leaves the queue as it is can only poison the lock. -/
theorem Ends.eq_poison (h : m.Ends pick call result m') (quiet : m.signal pick call result = m)
    (queue : m'.queue = m.queue) : m' = m.poison result.interrupted := by
  obtain ⟨-, -, parked, signalled, poisoned⟩ := h
  rw [quiet] at parked signalled
  obtain ⟨⟨queue', poisoned'⟩, parked', signalled'⟩ := m'
  obtain rfl : queue' = m.queue := queue
  obtain rfl : poisoned' = (m.poisoned || result.interrupted) := poisoned
  obtain rfl : parked' = m.parked := parked
  obtain rfl : signalled' = m.signalled := signalled
  rfl

/-- A call that gives off no signals, breaks nothing off and leaves the queue as it is leaves the
monitor as it is. -/
theorem Ends.eq_of_quiet (h : m.Ends pick call result m') (quiet : m.signal pick call result = m)
    (sound : result.interrupted = false) (queue : m'.queue = m.queue) : m' = m := by
  rw [h.eq_poison quiet queue, poison, sound, Bool.or_false]

theorem ends_enqueue (m : Monitor α) (a : α) (pick : Nat) :
    m.Ends pick (.enqueue a) (.index (m.enqueue a pick).1) (m.enqueue a pick).2 := by
  have heffect := m.queue.effect_enqueue a
  rw [enqueue_eq]
  rcases henqueue : m.queue.enqueue a with ⟨_ | index, queue⟩
  · rw [henqueue] at heffect
    exact ends_of_quiet rfl rfl heffect (by simp)
  · rw [henqueue] at heffect
    -- The signal does not look at the queue, so it may as well come before the item.
    simp only [notifyOne_withQueue]
    exact ⟨heffect, by simp, rfl, rfl, by simp [Result.interrupted]⟩

theorem ends_close (m : Monitor α) (pick : Nat) :
    m.Ends pick .close (.closed m.close.1) m.close.2 := by
  have heffect := m.queue.effect_close
  rw [close_eq]
  rcases hclose : m.queue.close with ⟨_ | discarded, queue⟩
  · rw [hclose] at heffect
    exact ends_of_quiet rfl rfl heffect (by simp)
  · rw [hclose] at heffect
    exact ⟨heffect, by simp, rfl, rfl, by simp [Result.interrupted, notifyAll]⟩

theorem ends_search (m : Monitor α) (probe : Probe α) (pick : Nat) :
    m.Ends pick (.search probe) (.finding (m.search probe).1) (m.search probe).2 := by
  rw [search_eq]
  exact ⟨.reads rfl, by simp, rfl, rfl, rfl⟩

/-- A thread that need not wait is given what there is. -/
theorem act_dequeue (hwait : m.queue.mustWait = false) :
    m.act thread pick .dequeue =
      (some (m.queue.perform .dequeue).1, { m with queue := (m.queue.perform .dequeue).2 }) := by
  simp [act, dequeue_eq, hwait, Queue.perform, Turn.result?]

/-- A removal is what the queue answers to it, and does not poison the lock. -/
theorem act_removeAt (m : Monitor α) (thread pick index : Nat) :
    m.act thread pick (.removeAt index) = (some (m.queue.perform (.removeAt index)).1,
      { m with queue := (m.queue.perform (.removeAt index)).2 }) := by
  rw [act, Queue.perform]
  rcases Nat.lt_or_ge index m.queue.length with hlt | hge
  · rw [removeAt_of_lt hlt, Guard.removeAt_of_lt hlt]
  · rw [removeAt_of_le hge, Guard.removeAt_of_le hge]

/-- A call that only has the queue do what it asks ends so. -/
theorem ends_of_act_eq_perform (h : m.act thread pick call = (some result, m'))
    (hact : m.act thread pick call =
      (some (m.queue.perform call).1, { m with queue := (m.queue.perform call).2 }))
    (quiet : ∀ r, m.signal pick call r = m) (sound : (m.queue.perform call).1.interrupted = false)
    (ready : call = .dequeue → m.queue.mustWait = false) : m.Ends pick call result m' := by
  obtain ⟨hresult, rfl⟩ := Prod.mk.inj (h.symm.trans hact)
  obtain rfl := Option.some.inj hresult
  exact ends_of_quiet (quiet _) sound (m.queue.effect_perform call) ready

theorem act_ends (h : m.act thread pick call = (some result, m')) : m.Ends pick call result m' := by
  cases call with
  | enqueue a =>
    obtain ⟨rfl, rfl⟩ : .index (m.enqueue a pick).1 = result ∧ (m.enqueue a pick).2 = m' := by
      simpa [act] using h
    exact ends_enqueue m a pick
  | close =>
    obtain ⟨rfl, rfl⟩ : .closed m.close.1 = result ∧ m.close.2 = m' := by simpa [act] using h
    exact ends_close m pick
  | search probe =>
    obtain ⟨rfl, rfl⟩ : .finding (m.search probe).1 = result ∧ (m.search probe).2 = m' := by
      simpa [act] using h
    exact ends_search m probe pick
  | dequeue =>
    cases hwait : m.queue.mustWait with
    | true => simp [act, dequeue_eq, hwait, Turn.result?] at h
    | false =>
      exact ends_of_act_eq_perform h (act_dequeue hwait) (fun _ ↦ rfl) rfl fun _ ↦ hwait
  | removeAt index =>
    exact ends_of_act_eq_perform h (m.act_removeAt ..) (fun _ ↦ rfl) rfl (by simp)
  | tryDequeue | tryRemoveAt | clear =>
    exact ends_of_act_eq_perform h (by rw [act, onQueue_eq]; rfl) (fun _ ↦ rfl) rfl (by simp)
  | _ => exact ends_of_act_eq_perform h (by rw [act, look_eq]; rfl) (fun _ ↦ rfl) rfl (by simp)

omit [Item α] in
/-- A thread that has slept falls asleep again only when it must wait and the lock is sound. -/
theorem retake_sleeps (h : m.retake thread = (none, m')) :
    m.queue.mustWait = true ∧ m.poisoned = false ∧
      m' = { m with
        parked := m.parked ++ [thread], signalled := m.signalled.erase thread } := by
  rw [retake, resume_eq] at h
  cases hwait : m.queue.mustWait && !m.poisoned with
  | true =>
    rw [Bool.and_eq_true, Bool.not_eq_true'] at hwait
    exact ⟨hwait.1, hwait.2, by simpa [hwait, Turn.result?] using h.symm⟩
  | false => simp [hwait, Turn.result?] at h

/-- How a call ends in the critical section of a thread that has slept. -/
structure EndsLate (m : Monitor α) (thread : Nat) (result : Result α) (m' : Monitor α) : Prop where
  /-- The thread takes the item at the head, if there is one. -/
  effect : Queue.Effect m.queue .dequeue result m'.queue
  /-- It need not wait, or the lock is poisoned. -/
  ready : m.queue.mustWait = false ∨ m.poisoned = true
  /-- The same threads sleep. -/
  parked : m'.parked = m.parked
  /-- The thread is signalled no longer. -/
  signalled : m'.signalled = m.signalled.erase thread
  /-- The lock is as sound as before. -/
  poisoned : m'.poisoned = m.poisoned

theorem retake_ends (h : m.retake thread = (some result, m')) : m.EndsLate thread result m' := by
  rw [retake, resume_eq] at h
  cases hwait : m.queue.mustWait && !m.poisoned with
  | true => simp [hwait, Turn.result?] at h
  | false =>
    obtain ⟨rfl, rfl⟩ : .item m.queue.tryDequeue.1 = result ∧
        { m with queue := m.queue.tryDequeue.2, signalled := m.signalled.erase thread } = m' := by
      simpa [hwait, Turn.result?] using h
    refine ⟨m.queue.effect_tryDequeue (.inl rfl), ?_, rfl, rfl, rfl⟩
    cases hpoisoned : m.poisoned with
    | true => exact .inr rfl
    | false => exact .inl (by simpa [hpoisoned] using hwait)

end Monitor

end QueueJournal
