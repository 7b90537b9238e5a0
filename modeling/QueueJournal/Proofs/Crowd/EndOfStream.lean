import QueueJournal.Proofs.Crowd.Wakeup

/-!
# The end of the stream

A thread that waits for an item should go without one only when the queue is closed. That holds as
long as no test has broken off under the lock. Under a poisoned lock a thread that has slept does
not look again whether it must wait, and goes without an item although the queue is open if another
thread was there first.

`given_none_iff` gives the exact condition, and `not_closed_of_given_none` a run in which it is met.
-/

namespace QueueJournal.Crowd

variable {α : Type} {c c' : Crowd α} {t n : Nat} {item : Option α}

/-- A thread waits for an item: it has asked for one and has not been answered. -/
def Dequeuing (c : Crowd α) (thread number : Nat) : Prop :=
  c.stage thread = .called number .dequeue ∨ c.stage thread = .waiting number

variable [Item α]

/-- A lock that is poisoned stays poisoned. -/
theorem Step.poisoned (hstep : Step c c') (h : c.monitor.poisoned = true) :
    c'.monitor.poisoned = true := by
  rcases hstep.ends with ⟨-, hpoisoned, -⟩ | ⟨deed, hends⟩
  · rwa [hpoisoned]
  · rw [hends.poisoned, h, Bool.true_or]

/-- What a waiting thread is given when the step ends its call. -/
theorem given_none_iff_of_step (hstep : Step c c') (hbefore : c.Dequeuing t n)
    (hafter : c'.stage t = .leaving ⟨n, t, .dequeue, .item item⟩) :
    item = none ↔ c.queue.closed = true ∨
      (c.Roused t ∧ c.monitor.poisoned = true ∧ c.queue.items = []) := by
  rcases hstep.leaving hafter with hstage | ⟨pick, hstage, hends⟩ | ⟨hroused, -, -, hends⟩
  · rcases hbefore with h | h <;> simp [hstage] at h
  · -- A thread that comes for the first time has looked whether it must wait.
    have hserves := Queue.serves_of_effect hends.effect hends.ready
    have hnot : ¬ c.Roused t := fun hroused ↦ by
      obtain ⟨⟨number, hwaiting⟩, -⟩ := hroused
      simp [hstage] at hwaiting
    simpa [hnot] using hserves.lacks_iff rfl
  · -- A thread that has slept has looked only if the lock is sound.
    rcases hends.effect.of_takes (.inl rfl) with
      ⟨a, items, isOpen, head, hgiven, -⟩ | ⟨lacking, hgiven, -⟩
    · obtain rfl : item = some a := by simpa using hgiven
      simp [queue, isOpen, head]
    · obtain rfl : item = none := by simpa using hgiven
      refine ⟨fun _ ↦ ?_, fun _ ↦ rfl⟩
      rcases lacking with hclosed | hnil
      · exact .inl hclosed
      · rcases hends.ready with hready | hpoisoned
        · exact .inl ((Queue.mustWait_eq_false_iff.1 hready).resolve_left fun hne ↦ hne hnil)
        · exact .inr ⟨hroused, hpoisoned, hnil⟩

/-- **When a waiting thread goes without an item.** It does exactly if the queue is closed when its
call ends, or if it was roused, the lock is poisoned and there is no item. While the lock is sound,
the queue is closed from then until the thread returns. -/
theorem given_none_iff :
    (∀ (c c' : Crowd α) (t n : Nat) (item : Option α), Step c c' → c.Dequeuing t n →
      c'.stage t = .leaving ⟨n, t, .dequeue, .item item⟩ →
        (item = none ↔ c.queue.closed = true ∨
          (c.Roused t ∧ c.monitor.poisoned = true ∧ c.queue.items = []))) ∧
      ∀ (c : Crowd α) (t n : Nat), Reachable c → c.monitor.poisoned = false →
        c.stage t = .leaving ⟨n, t, .dequeue, .item none⟩ → c.queue.closed = true := by
  refine ⟨fun c c' t n item ↦ given_none_iff_of_step, ?_⟩
  intro c t n h
  induction h with
  | refl => intro _ hstage; simp [empty] at hstage
  | @tail c c' hrun hstep ih =>
    intro hsound hstage
    -- The lock was sound before, so a thread that has slept has looked again.
    have hsound' : c.monitor.poisoned = false := by
      by_contra hpoisoned
      rw [Bool.not_eq_false] at hpoisoned
      simp [hstep.poisoned hpoisoned] at hsound
    have hclosed : c.queue.closed = true := by
      rcases hstep.leaving hstage with hleaving | hended
      · exact ih hsound' hleaving
      · have hbefore : c.Dequeuing t n := by
          rcases hended with ⟨_, hcalled, _⟩ | ⟨_, hwaiting, _⟩
          · exact .inl hcalled
          · exact .inr hwaiting
        simpa [hsound'] using (given_none_iff_of_step hstep hbefore hstage).1 rfl
    exact closed_of_leads (.single hstep) hclosed

/-- A thread that asks a closed queue for an item goes without one. -/
theorem given_none_iff_closed : ∃ c c' : Crowd String, Reachable c ∧ Step c c' ∧ c.Dequeuing 1 1 ∧
    c'.stage 1 = .leaving ⟨1, 1, .dequeue, .item none⟩ ∧ c'.monitor.poisoned = false ∧
      ((none : Option String) = none ↔ c.queue.closed = true ∨
        (c.Roused 1 ∧ c.monitor.poisoned = true ∧ c.queue.items = [])) ∧
      c'.queue.closed = true := by
  have hrun := (reachable_empty : Reachable (empty : Crowd String))
    |>.step (.make 0 .close rfl) |>.step (.enter 0 0 rfl) |>.step (.make 1 .dequeue rfl)
  refine ⟨_, _, hrun, .enter 1 0 rfl, .inl rfl, rfl, rfl, ?_, ?_⟩
  · exact given_none_iff.1 _ _ 1 1 none (.enter 1 0 rfl) (.inl rfl) rfl
  · exact given_none_iff.2 _ 1 1 (hrun.step (.enter 1 0 rfl)) rfl rfl

/-- A thread that was roused under a poisoned lock goes without an item, and returns, while the
queue is open: its item was taken first. -/
theorem not_closed_of_given_none :
    ¬ ∀ (c c' : Crowd String) (t n : Nat), Reachable c → Step c c' →
      c.stage t = .leaving ⟨n, t, .dequeue, .item none⟩ → c'.stage t = .idle →
        c'.queue.closed = true := by
  intro hclaim
  -- A test breaks off while the queue holds an item, which is then taken.
  have h₁ := (reachable_empty : Reachable (empty : Crowd String))
    |>.step (.make 0 (.enqueue "a") rfl) |>.step (.enter 0 0 rfl)
    |>.step (.make 1 (.search fun _ _ ↦ .panic) rfl) |>.step (.enter 1 0 rfl)
    |>.step (.make 2 .tryDequeue rfl) |>.step (.enter 2 0 rfl)
  -- A thread sleeps, is signalled for an item, and another thread takes it.
  have h₂ := h₁
    |>.step (.make 3 .dequeue rfl) |>.step (.enter 3 0 rfl)
    |>.step (.make 4 (.enqueue "b") rfl) |>.step (.enter 4 0 rfl)
    |>.step (.make 5 .tryDequeue rfl) |>.step (.enter 5 0 rfl)
  have h₃ := h₂.step (.resume 3 rfl (by decide))
  exact absurd (hclaim _ _ 3 3 h₃ (.depart 3 rfl) rfl rfl) (by decide)

end QueueJournal.Crowd
