import Mathlib.Algebra.Ring.Nat
import Mathlib.Order.Bounds.Basic
import QueueJournal.Proofs.Queue.Closed
import QueueJournal.Proofs.Queue.Departure

/-!
# The buffer of a queue

The places of an open queue's buffer can be told from the greatest length that the queue has had,
its *peak*: there are as many as in the smallest buffer that would hold the peak, where buffers are
made by doubling a first one (`Fitted`). An item that comes is one more only if the buffer is full,
and then the peak and the length are the same, so that twice as many places fit again
(`Fitted.grown`). No other call on an open queue touches the buffer (`Effect.fitted`).
-/

namespace QueueJournal

/-- The sizes that a buffer can have: that of a first buffer, doubled any number of times. -/
def bufferSizes (first : Nat) : Set Nat :=
  {n | ∃ k, n = first * 2 ^ k}

/-- What the buffer of a queue must be if the queue has never held more than `peak` items: nothing
if there never was an item, and otherwise the smallest that has a place for each. -/
structure Fitted (first peak capacity : Nat) : Prop where
  /-- A queue that has held nothing has no buffer. -/
  unused : peak = 0 → capacity = 0
  /-- A queue that has held something has the smallest buffer for it. -/
  least : peak ≠ 0 → IsLeast {n ∈ bufferSizes first | peak ≤ n} capacity

/-- Each size is half the next one. -/
theorem size_succ (first k : Nat) : first * 2 ^ (k + 1) = 2 * (first * 2 ^ k) := by
  rw [Nat.pow_succ, Nat.mul_comm (2 ^ k), Nat.mul_left_comm]

namespace Fitted

variable {first peak peak' capacity capacity' : Nat}

theorem le_capacity (h : Fitted first peak capacity) : peak ≤ capacity := by
  rcases eq_or_ne peak 0 with rfl | hne
  · exact Nat.zero_le _
  · exact (h.least hne).1.2

/-- A greater peak needs at least as many places. -/
theorem mono (h : Fitted first peak capacity) (h' : Fitted first peak' capacity')
    (hle : peak ≤ peak') : capacity ≤ capacity' := by
  rcases eq_or_ne peak 0 with hzero | hne
  · rw [h.unused hzero]
    exact Nat.zero_le _
  · obtain ⟨hsize, hfits⟩ := (h'.least (by omega)).1
    exact (h.least hne).2 ⟨hsize, hle.trans hfits⟩

/-- There is one size that fits. -/
theorem unique (h : Fitted first peak capacity) (h' : Fitted first peak capacity') :
    capacity = capacity' :=
  le_antisymm (h.mono h' le_rfl) (h'.mono h le_rfl)

/-- A buffer greater than a first one is less than twice as great as the peak, since half of it
would not do. -/
theorem lt_two_mul (h : Fitted first peak capacity) (hlt : first < capacity) :
    capacity < 2 * peak := by
  have hne : peak ≠ 0 := fun hzero ↦ by simp [h.unused hzero] at hlt
  obtain ⟨⟨⟨k, rfl⟩, -⟩, hleast⟩ := h.least hne
  cases k with
  | zero => simp at hlt
  | succ k =>
    rw [size_succ] at hlt hleast ⊢
    by_contra hge
    have hhalf : 2 * (first * 2 ^ k) ≤ first * 2 ^ k := hleast ⟨⟨k, rfl⟩, by omega⟩
    omega

/-- A buffer with a place left also holds one more item. -/
theorem room {length : Nat} (h : Fitted first peak capacity) (hlt : length < capacity) :
    Fitted first (max peak (length + 1)) capacity where
  unused hzero := by omega
  least _ := by
    have hne : peak ≠ 0 := fun hzero ↦ by simp [h.unused hzero] at hlt
    obtain ⟨⟨hsize, hfits⟩, hleast⟩ := h.least hne
    exact ⟨⟨hsize, max_le hfits hlt⟩, fun n ⟨hn, hpeak⟩ ↦ hleast ⟨hn, (le_max_left ..).trans hpeak⟩⟩

/-- A full buffer is doubled, or becomes a first one. -/
theorem doubled (h : Fitted first capacity capacity) (hfirst : 0 < first) :
    Fitted first (capacity + 1) (max (2 * capacity) first) where
  unused hzero := by omega
  least _ := by
    rcases eq_or_ne capacity 0 with rfl | hne
    · refine ⟨⟨⟨0, by simp⟩, hfirst.trans_le (le_max_right ..)⟩, ?_⟩
      rintro _ ⟨⟨k, rfl⟩, -⟩
      simpa using Nat.le_mul_of_pos_right first (Nat.two_pow_pos k)
    · obtain ⟨⟨⟨k, rfl⟩, -⟩, -⟩ := h.least hne
      have hle : first ≤ first * 2 ^ k := Nat.le_mul_of_pos_right first (Nat.two_pow_pos k)
      rw [max_eq_left (by omega)]
      refine ⟨⟨⟨k + 1, (size_succ first k).symm⟩, by omega⟩, ?_⟩
      rintro _ ⟨⟨j, rfl⟩, hlt⟩
      rw [← size_succ]
      -- A size greater than the old one is doubled at least once more.
      have hkj : k < j := (Nat.pow_lt_pow_iff_right (by decide)).1 (Nat.lt_of_mul_lt_mul_left hlt)
      exact Nat.mul_le_mul_left first (Nat.pow_le_pow_right (by decide) hkj)

/-- **The buffer fits again once an item has come.** -/
theorem grown {α : Type} {q : Queue α} (h : Fitted first peak q.capacity) (hfirst : 0 < first)
    (hle : q.length ≤ peak) : Fitted first (max peak (q.length + 1)) (q.grown first) := by
  rw [Queue.grown]
  split
  case isTrue hlt => exact h.room hlt
  case isFalse hfull =>
    -- No buffer is too small for the peak, so this one is as full as it has ever been.
    have hpeak : peak = q.capacity := by have := h.le_capacity; omega
    have hlength : q.length = q.capacity := by omega
    rw [hlength, hpeak, max_eq_right (Nat.le_succ _)]
    exact (hpeak ▸ h).doubled hfirst

end Fitted

namespace Queue

variable {α : Type} [Item α] {q q' : Queue α} {call : Call α} {result : Result α} {peak : Nat}

/-- What a call does to the buffer of a queue that is open afterwards: an item that is put goes into
the grown buffer, and any other call leaves the buffer alone and the queue no longer than it was. -/
theorem Effect.capacity (h : Effect q call result q') (isOpen : q'.closed = false) :
    ((arrival? call result).isSome = true ∧ q'.length = q.length + 1 ∧
        q'.capacity = q.grown (Item.firstCapacity α)) ∨
      (arrival? call result = none ∧ q'.length ≤ q.length ∧ q'.capacity = q.capacity) := by
  have hlength : arrival? call result = none → q'.length ≤ q.length := fun hnone ↦ by
    rw [length, length, h.items_eq, hnone, Option.toList_none, List.append_nil]
    exact ((departure call result).rest_sublist q.items).length_le
  cases h with
  | accepts => exact .inl ⟨rfl, by simp [length], rfl⟩
  | @gives _ taking a =>
    have hnone := (departure_gives taking a).2
    exact .inr ⟨hnone, hlength hnone, rfl⟩
  | lacks taking => exact .inr ⟨(departure_lacks taking).2, le_rfl, rfl⟩
  | reads answer => exact .inr ⟨(departure_reads answer).2, le_rfl, rfl⟩
  | closes => cases isOpen
  | _ => exact .inr ⟨rfl, hlength rfl, rfl⟩

/-- **A call that leaves a queue open leaves its buffer fitted to the peak.** -/
theorem Effect.fitted (h : Effect q call result q') (isOpen : q'.closed = false)
    (hfitted : Fitted (Item.firstCapacity α) peak q.capacity) (hle : q.length ≤ peak) :
    Fitted (Item.firstCapacity α) (max peak q'.length) q'.capacity := by
  rcases h.capacity isOpen with ⟨-, hlength, hcapacity⟩ | ⟨-, hlength, hcapacity⟩
  · rw [hlength, hcapacity]
    exact hfitted.grown Item.firstCapacity_pos hle
  · rw [max_eq_left (hlength.trans hle), hcapacity]
    exact hfitted

/-- A call that neither puts an item nor closes the queue leaves the buffer alone. -/
theorem Effect.capacity_eq (h : Effect q call result q') (hput : ∀ a, call ≠ .enqueue a)
    (hclose : call ≠ .close) : q'.capacity = q.capacity := by
  cases h with
  | accepts a => exact absurd rfl (hput a)
  | closes => exact absurd rfl hclose
  | _ => rfl

end Queue

end QueueJournal
