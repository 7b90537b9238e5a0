import Mathlib.Data.Set.Card
import QueueJournal.Proofs.Crowd.Basic
import QueueJournal.Proofs.Monitor.Attendance
import QueueJournal.Proofs.Queue.Closed

/-!
# No wakeup is lost

In every crowd that can be reached, a thread sleeps only while the queue is open and holds at most
as many items as there are threads that have been roused (`no_lost_wakeup`). So an item never lies
in the queue while all threads that want one sleep, and no thread sleeps once a closing call is
done.
-/

namespace QueueJournal.Crowd

variable {α : Type} {c c' : Crowd α} {thread : Nat}

/-- A thread that waits either sleeps or has been roused. -/
theorem Listed.asleep_or_roused (h : c.Listed) (hwaits : (c.stage thread).Waits) :
    c.Asleep thread ∨ c.Roused thread :=
  (List.mem_append.1 ((h.mem_iff thread).2 hwaits)).imp (⟨hwaits, ·⟩) (⟨hwaits, ·⟩)

theorem Listed.not_asleep_and_roused (h : c.Listed) : ¬ (c.Asleep thread ∧ c.Roused thread) :=
  fun ⟨hasleep, hroused⟩ ↦ List.disjoint_of_nodup_append h.nodup hasleep.2 hroused.2

theorem Listed.ncard_roused (h : c.Listed) :
    {t | c.Roused t}.ncard = c.monitor.signalled.length := by
  have hroused : {t | c.Roused t} = (c.monitor.signalled.toFinset : Set Nat) := by
    ext t
    have hwaits : t ∈ c.monitor.signalled → (c.stage t).Waits := fun hmem ↦
      (h.mem_iff t).1 (List.mem_append_right _ hmem)
    simpa [Roused] using hwaits
  rw [hroused, Set.ncard_coe_finset, List.toFinset_card_of_nodup h.nodup.of_append_right]

variable [Item α]

theorem attended_of_step (h : c.monitor.Attended) (hstep : Step c c') : c'.monitor.Attended := by
  cases hstep.move with
  | make => exact h
  | sleep called wait => exact Monitor.attended_of_mustWait wait
  | finish called ends => exact h.ends ends
  | sleepAgain waiting signalled wait => exact Monitor.attended_of_mustWait wait
  | finishLate waiting signalled ends => exact h.endsLate ends
  | stir parked => exact h.wake parked
  | depart => exact h

theorem attended_of_reachable (h : Reachable c) : c.monitor.Attended := by
  induction h with
  | refl => exact Monitor.attended_empty
  | tail _ hstep ih => exact attended_of_step ih hstep

/-- A queue that is closed stays closed. -/
theorem closed_of_leads (h : Leads c c') (hclosed : c.queue.closed = true) :
    c'.queue.closed = true := by
  induction h with
  | refl => exact hclosed
  | tail _ hstep ih =>
    rcases hstep.ends with ⟨hqueue, -, -⟩ | ⟨deed, hends⟩
    · rwa [hqueue]
    · exact hends.effect.closed_iff.2 (.inl ih)

/-- The queue is closed once a closing call is done. -/
theorem closed_iff_exists_close (h : Reachable c) :
    c.queue.closed = true ↔ ∃ deed ∈ c.deeds, deed.call = .close := by
  induction h with
  | refl => simp [empty, Monitor.empty, Queue.empty, deeds, deedsOf]
  | tail _ hstep ih =>
    rcases hstep.ends with ⟨hqueue, -, hdeeds⟩ | ⟨deed, hends⟩
    · rw [hqueue, hdeeds, ih]
    · rw [hends.effect.closed_iff, hends.deeds, ih]
      simp [or_and_right, exists_or]

/-- **No wakeup is lost.** A thread that waits for an item sleeps or has been roused. While a thread
sleeps, the queue is open and holds at most as many items as there are roused threads; so it is
empty when no thread is roused. Once a closing call is done, no thread ever sleeps. -/
theorem no_lost_wakeup (h : Reachable c) :
    (∀ t, (c.stage t).Waits → (c.Asleep t ∨ c.Roused t) ∧ ¬ (c.Asleep t ∧ c.Roused t)) ∧
      (∀ t, c.Asleep t → c.queue.closed = false ∧ c.queue.length ≤ {u | c.Roused u}.ncard) ∧
      ((∀ u, ¬ c.Roused u) → ∀ t, c.Asleep t → c.queue.items = [] ∧ c.queue.closed = false) ∧
      ((∃ deed ∈ c.deeds, deed.call = .close) → ∀ c', Leads c c' → ∀ t, ¬ c'.Asleep t) := by
  have hlisted := listed_of_reachable h
  have hattended : ∀ {d : Crowd α} {t : Nat}, Reachable d → d.Asleep t →
      d.queue.closed = false ∧ d.queue.length ≤ {u | d.Roused u}.ncard := by
    intro d t hd hasleep
    rw [(listed_of_reachable hd).ncard_roused]
    exact attended_of_reachable hd (List.ne_nil_of_mem hasleep.2)
  refine ⟨fun t hwaits ↦ ⟨hlisted.asleep_or_roused hwaits, hlisted.not_asleep_and_roused⟩,
    fun t ↦ hattended h, ?_, ?_⟩
  · intro hnone t hasleep
    obtain ⟨hopen, hle⟩ := hattended h hasleep
    have hzero : {u | c.Roused u}.ncard = 0 := by simp [hnone]
    exact ⟨List.eq_nil_of_length_eq_zero (Nat.le_zero.1 (hzero ▸ hle)), hopen⟩
  · intro hclosing c' hleads t hasleep
    have hopen := (hattended (h.trans hleads) hasleep).1
    simp [closed_of_leads hleads ((closed_iff_exists_close h).2 hclosing)] at hopen

/-- An item is put while two threads sleep: one is roused for it, and the other sleeps on. Once the
queue is closed, neither sleeps, and a third does not fall asleep. -/
theorem no_lost_wakeup_two_sleepers : ∃ c c' : Crowd String, Reachable c ∧ c.Asleep 1 ∧
    c.Roused 0 ∧ c.queue.items = ["a"] ∧ c.queue.closed = false ∧
      c.queue.length ≤ {u | c.Roused u}.ncard ∧ Leads c c' ∧ c'.Roused 0 ∧ c'.Roused 1 ∧
      c'.stage 4 = .called 4 .dequeue ∧ ∀ c'', Leads c' c'' → ∀ t, ¬ c''.Asleep t := by
  have h := (reachable_empty : Reachable (empty : Crowd String))
    |>.step (.make 0 .dequeue rfl) |>.step (.enter 0 0 rfl)
    |>.step (.make 1 .dequeue rfl) |>.step (.enter 1 0 rfl)
    |>.step (.make 2 (.enqueue "a") rfl) |>.step (.enter 2 0 rfl)
  obtain ⟨hopen, hle⟩ := (no_lost_wakeup h).2.1 1 ⟨⟨1, rfl⟩, by decide⟩
  have hstays : ∀ {c : Crowd String}, Reachable c → Leads c c := fun _ ↦ .refl
  have hleads := hstays h
    |>.tail (.make 3 .close rfl) |>.tail (.enter 3 0 rfl) |>.tail (.make 4 .dequeue rfl)
  exact ⟨_, _, h, ⟨⟨1, rfl⟩, by decide⟩, ⟨⟨0, rfl⟩, by decide⟩, rfl, hopen, hle, hleads,
    ⟨⟨0, rfl⟩, by decide⟩, ⟨⟨1, rfl⟩, by decide⟩, rfl,
    (no_lost_wakeup (h.trans hleads)).2.2.2 ⟨_, .tail _ (.head _), rfl⟩⟩

end QueueJournal.Crowd
