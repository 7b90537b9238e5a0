import QueueJournal.Proofs.Crowd.Wakeup
import QueueJournal.Proofs.Queue.Buffer

/-!
# The buffer follows the peak

How many places the buffer of an open queue has is decided by the greatest length that the queue has
had on the run that led to it, its peak, and not by who put or took items, or in which order
(`capacity_follows_peak`). A run is followed together with its peak (`Peaks`): two runs after one
another have the greater of their peaks (`Peaks.trans`), and the buffer is fitted to it
(`Peaks.fitted`). So a queue that is emptied and filled again keeps its buffer up to the old peak.
-/

namespace QueueJournal.Crowd

variable {α : Type} [Item α] {c c' c'' : Crowd α} {deed : Deed α} {peak peak' : Nat}

/-- Steps of threads lead from one crowd to another, and `peak` is the greatest length that the
queue has on the way, both ends included. -/
inductive Peaks (c : Crowd α) : Crowd α → Nat → Prop where
  /-- Where nothing happens, the queue stays as long as it is. -/
  | refl : Peaks c c c.queue.length
  /-- One more step may make the queue longer than it was before. -/
  | tail {c' c'' : Crowd α} {peak : Nat} (run : Peaks c c' peak) (step : Step c' c'') :
    Peaks c c'' (max peak c''.queue.length)

namespace Peaks

theorem leads (h : Peaks c c' peak) : Leads c c' := by
  induction h with
  | refl => exact .refl
  | tail _ step ih => exact ih.tail step

theorem length_le (h : Peaks c c' peak) : c'.queue.length ≤ peak := by
  cases h with
  | refl => exact le_rfl
  | tail => exact le_max_right ..

theorem trans (h : Peaks c c' peak) (h' : Peaks c' c'' peak') :
    Peaks c c'' (max peak peak') := by
  induction h' with
  | refl =>
    rw [max_eq_left h.length_le]
    exact h
  | tail _ step ih =>
    rw [← max_assoc]
    exact ih.tail step

/-- The queue has held something exactly if a call has put an item. -/
theorem eq_zero_iff (h : Peaks .empty c peak) :
    peak = 0 ↔ ∀ deed ∈ c.deeds, arrival? deed.call deed.result = none := by
  induction h with
  | refl => simp [empty, Monitor.empty, Queue.empty, Queue.length, deeds, deedsOf]
  | @tail c' c'' peak run step ih =>
    rcases step.ends with ⟨hqueue, -, hdeeds⟩ | ⟨deed, hends⟩
    · rw [hqueue, hdeeds, max_eq_left run.length_le, ih]
    · have hrest := ((departure deed.call deed.result).rest_sublist c'.queue.items).length_le
      have hlength : c''.queue.length = ((departure deed.call deed.result).rest
          c'.queue.items).length + (arrival? deed.call deed.result).toList.length := by
        rw [Queue.length, hends.effect.items_eq, List.length_append]
      have hle : c'.queue.items.length ≤ peak := run.length_le
      rw [hends.deeds, List.forall_mem_append, List.forall_mem_singleton, ← ih, hlength]
      cases harrival : arrival? deed.call deed.result with
      | none => simp only [Option.toList_none, List.length_nil, and_true]; omega
      | some a => simp

/-- **The buffer is fitted to the peak of the run that leads to it.** -/
theorem fitted (h : Peaks .empty c peak) (isOpen : c.queue.closed = false) :
    Fitted (Item.firstCapacity α) peak c.queue.capacity := by
  induction h with
  | refl => exact ⟨fun _ ↦ rfl, fun hne ↦ absurd rfl hne⟩
  | @tail c' c'' peak run step ih =>
    have isOpen' : c'.queue.closed = false := Bool.eq_false_iff.2 fun hclosed ↦ by
      simp [closed_of_leads (.single step) hclosed] at isOpen
    rcases step.ends with ⟨hqueue, -, -⟩ | ⟨deed, hends⟩
    · rw [hqueue, max_eq_left run.length_le]
      exact ih isOpen'
    · exact hends.effect.fitted isOpen (ih isOpen') run.length_le

end Peaks

/-- Every run has a peak. -/
theorem exists_peaks (h : Leads c c') : ∃ peak, Peaks c c' peak := by
  induction h with
  | refl => exact ⟨_, .refl⟩
  | tail _ hstep ih =>
    obtain ⟨peak, hpeaks⟩ := ih
    exact ⟨_, hpeaks.tail hstep⟩

/-- How the buffer of an open queue follows the peak of the run that has led to it. -/
structure FollowsPeak (c : Crowd α) (peak : Nat) : Prop where
  /-- As long as no item was accepted, there is no buffer. -/
  unused : (∀ deed ∈ c.deeds, arrival? deed.call deed.result = none) → c.queue.capacity = 0
  /-- Otherwise it is the smallest of a first buffer and its doublings that would hold the peak. -/
  least : (∃ deed ∈ c.deeds, arrival? deed.call deed.result ≠ none) →
    IsLeast {n | (∃ k, n = Item.firstCapacity α * 2 ^ k) ∧ peak ≤ n} c.queue.capacity
  /-- Any buffer greater than a first one is less than twice as great as the peak. -/
  lt_two_mul : Item.firstCapacity α < c.queue.capacity → c.queue.capacity < 2 * peak
  /-- A thread that asks how many places there are is told so. -/
  told : ∀ c' deed, Step c c' → c'.deeds = c.deeds ++ [deed] → deed.call = .capacity →
    deed.result = .count c.queue.capacity
  /-- The buffer never gets smaller while the queue is open. -/
  grows : ∀ c', Leads c c' → c'.queue.closed = false → c.queue.capacity ≤ c'.queue.capacity
  /-- No call changes it but one that puts an item or closes the queue. -/
  kept : ∀ c' deed, Step c c' → c'.deeds = c.deeds ++ [deed] → (∀ a, deed.call ≠ .enqueue a) →
    deed.call ≠ .close → c'.queue.capacity = c.queue.capacity
  /-- It stays the same while the queue is not longer than it was at its peak, whatever is taken out
  and put again. -/
  refilled : ∀ c' peak', Peaks c c' peak' → peak' ≤ peak → c'.queue.closed = false →
    c'.queue.capacity = c.queue.capacity

theorem followsPeak (h : Peaks .empty c peak) (isOpen : c.queue.closed = false) :
    c.FollowsPeak peak where
  unused hnone := (h.fitted isOpen).unused (h.eq_zero_iff.2 hnone)
  least hsome := (h.fitted isOpen).least fun hzero ↦ by
    obtain ⟨deed, hmem, hne⟩ := hsome
    exact hne (h.eq_zero_iff.1 hzero deed hmem)
  lt_two_mul := (h.fitted isOpen).lt_two_mul
  told c' deed hstep hdeeds hcall := by
    have hperform := (hstep.ends_of_deeds hdeeds).effect.perform_eq
    rw [hcall, Queue.perform, Prod.mk.injEq] at hperform
    exact hperform.1.symm
  grows c' hleads isOpen' := by
    obtain ⟨peak', hpeaks⟩ := exists_peaks hleads
    exact (h.fitted isOpen).mono ((h.trans hpeaks).fitted isOpen') (le_max_left ..)
  kept c' deed hstep hdeeds := (hstep.ends_of_deeds hdeeds).effect.capacity_eq
  refilled c' peak' hpeaks hle isOpen' := by
    have hfitted := (h.trans hpeaks).fitted isOpen'
    rw [max_eq_left hle] at hfitted
    exact hfitted.unique (h.fitted isOpen)

/-- **The buffer of an open queue follows the peak** of the run that leads to it: it is the smallest
of a first buffer and its doublings that would hold the peak, so it never gets smaller, and it stays
as it is while the queue is emptied and filled again. A first buffer has eight places for bytes, and
four for items of any other kind. -/
theorem capacity_follows_peak (h : Reachable c) (isOpen : c.queue.closed = false) :
    (∃ peak, Peaks .empty c peak) ∧ (∀ peak, Peaks .empty c peak → c.FollowsPeak peak) ∧
      Item.firstCapacity UInt8 = 8 ∧ Item.firstCapacity String = 4 ∧
      Item.firstCapacity Int64 = 4 ∧ Item.firstCapacity Binary64 = 4 ∧
      Item.firstCapacity Json = 4 ∧ Item.firstCapacity Fragile = 4 :=
  ⟨exists_peaks h, fun _ hpeaks ↦ followsPeak hpeaks isOpen, rfl, rfl, rfl, rfl, rfl, rfl⟩

/-- Five items make a buffer of eight places, which is kept when they are cleared and while three
others are put. A thread that has slept takes one of those. -/
theorem capacity_follows_peak_refilled : ∃ c c' : Crowd String, Reachable c ∧
    c.queue.closed = false ∧ Peaks .empty c 5 ∧ c.queue.items = [] ∧ c.queue.capacity = 8 ∧
      c.FollowsPeak 5 ∧ Peaks c c' 2 ∧ c'.queue.items = ["g", "h"] ∧ c'.queue.closed = false ∧
      c'.queue.capacity = 8 := by
  have h : Peaks (empty : Crowd String) _ 5 := Peaks.refl
    |>.tail (.make 0 (.enqueue "a") rfl) |>.tail (.enter 0 0 rfl)
    |>.tail (.make 1 (.enqueue "b") rfl) |>.tail (.enter 1 0 rfl)
    |>.tail (.make 2 (.enqueue "c") rfl) |>.tail (.enter 2 0 rfl)
    |>.tail (.make 3 (.enqueue "d") rfl) |>.tail (.enter 3 0 rfl)
    |>.tail (.make 4 (.enqueue "e") rfl) |>.tail (.enter 4 0 rfl)
    |>.tail (.make 5 .clear rfl) |>.tail (.enter 5 0 rfl)
  have hfollows := (capacity_follows_peak h.leads rfl).2.1 5 h
  -- A thread sleeps at the empty queue, and is roused for the first of the items that follow.
  have hstays : ∀ {c : Crowd String}, Peaks .empty c 5 → Peaks c c c.queue.length := fun _ ↦ .refl
  have h' := hstays h
    |>.tail (.make 6 .dequeue rfl) |>.tail (.enter 6 0 rfl)
    |>.tail (.make 7 (.enqueue "f") rfl) |>.tail (.enter 7 0 rfl)
    |>.tail (.resume 6 rfl (by decide))
    |>.tail (.make 8 (.enqueue "g") rfl) |>.tail (.enter 8 0 rfl)
    |>.tail (.make 9 (.enqueue "h") rfl) |>.tail (.enter 9 0 rfl)
  exact ⟨_, _, h.leads, rfl, h, rfl, rfl, hfollows, h', rfl, rfl,
    (hfollows.refilled _ _ h' (by decide) rfl).trans rfl⟩

end QueueJournal.Crowd
