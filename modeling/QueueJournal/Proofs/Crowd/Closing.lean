import QueueJournal.Proofs.Crowd.History
import QueueJournal.Proofs.Crowd.Wakeup
import QueueJournal.Proofs.Queue.Closed

/-!
# Closing is final

However many threads close a queue, and whatever others do meanwhile, the first closing call in the
order of the lock takes effect, and every other one changes and reports nothing (`TakesEffectOnce`).
From then on the queue is shut, and each call that ends is refused, whether it was made after the
closing, before it, or by a thread that slept or had been roused for an item (`StaysShut`).

That refusals are prompt rests on what a step does to a call that is pending (`Step.pending`): the
call stays pending where it was, or must wait, or ends. A closed queue makes nobody wait.
-/

namespace QueueJournal

/-- What is reported when a call ends. -/
def Deed.notice? {α : Type} (deed : Deed α) : Option Notice :=
  QueueJournal.notice? deed.call deed.result

namespace Crowd

variable {α : Type} {c c' : Crowd α} {thread number : Nat} {call : Call α} {deed : Deed α}

variable [Item α]

/-! ### Closed crowds -/

theorem shut_of_closed (h : Reachable c) (hclosed : c.queue.closed = true) : c.queue = .shut := by
  induction h with
  | refl => simp [empty, Monitor.empty, Queue.empty] at hclosed
  | tail _ hstep ih =>
    rcases hstep.ends with ⟨hqueue, -, -⟩ | ⟨deed, hends⟩
    · rw [hqueue] at hclosed ⊢
      exact ih hclosed
    · exact hends.effect.eq_shut ih hclosed

/-- No thread sleeps at a closed queue. -/
theorem not_asleep_of_closed (h : Reachable c) (hclosed : c.queue.closed = true) :
    ¬ c.Asleep thread := by
  intro hasleep
  have hopen := (attended_of_reachable h (List.ne_nil_of_mem hasleep.2)).1
  rw [hclosed] at hopen
  cases hopen

/-! ### The end of a closing call -/

/-- A closing call ends in the critical section in which it was begun. -/
theorem Step.ends_close (hstep : Step c c') (hdeeds : c'.deeds = c.deeds ++ [deed])
    (hclose : deed.call = .close) : ∃ pick, c.monitor.Ends pick .close deed.result c'.monitor ∧
      c.stage deed.thread = .called deed.number .close ∧
      c'.stage = Function.update c.stage deed.thread (.leaving deed) := by
  obtain ⟨pick, hends, hcalled, hstage⟩ := hstep.ends_at_once hdeeds (by simp [hclose])
  rw [hclose] at hends hcalled
  exact ⟨pick, hends, hcalled, hstage⟩

/-- What the end of a closing call comes to: the first such call takes effect, and no other does
anything. -/
structure TakesEffectOnce (c : Crowd α) (deed : Deed α) (c' : Crowd α) : Prop where
  /-- The first closing call finds the queue open and shuts it. It tells and reports how many items
  are discarded. -/
  first : (∀ d ∈ c.deeds, d.call ≠ .close) →
    c.queue.closed = false ∧ c'.queue = .shut ∧ deed.result = .closed (some c.queue.length) ∧
      deed.notice? = some (.queueClosed c.queue.length)
  /-- All threads that wait are roused, those that slept and those that were roused before. -/
  rouses : ∀ t, (c.stage t).Waits → c'.Roused t
  /-- Any other closing call changes and reports nothing. -/
  others : (∃ d ∈ c.deeds, d.call = .close) →
    c'.monitor = c.monitor ∧ deed.result = .closed none ∧ deed.notice? = none

theorem takesEffectOnce (h : Reachable c) (hstep : Step c c')
    (hdeeds : c'.deeds = c.deeds ++ [deed]) (hclose : deed.call = .close) :
    c.TakesEffectOnce deed c' := by
  obtain ⟨pick, hends, hcalled, hstage⟩ := hstep.ends_close hdeeds hclose
  have hclosed : c'.queue.closed = true :=
    (closed_iff_exists_close (h.step hstep)).2 ⟨deed, by simp [hdeeds], hclose⟩
  refine ⟨fun hnone ↦ ?_, fun t hwaits ↦ ?_, fun hsome ↦ ?_⟩
  · have hopen : c.queue.closed = false := by
      rw [← Bool.not_eq_true, closed_iff_exists_close h]
      exact fun ⟨d, hd, hcall⟩ ↦ hnone d hd hcall
    have hperform := hends.effect.perform_eq
    simp only [Queue.perform, Queue.close, hopen, Bool.false_eq_true, if_false, Prod.mk.injEq]
      at hperform
    obtain ⟨hresult, hshut⟩ := hperform
    exact ⟨hopen, hshut.symm, hresult.symm, by rw [Deed.notice?, hclose, ← hresult]; rfl⟩
  · -- The thread that closes the queue does not wait, so it is another one.
    have hother : t ≠ deed.thread := by
      rintro rfl
      simp [hcalled, Stage.Waits] at hwaits
    have hwaits' : (c'.stage t).Waits := by rwa [hstage, Function.update_of_ne hother]
    exact ((listed_of_reachable (h.step hstep)).asleep_or_roused hwaits').resolve_left
      (not_asleep_of_closed (h.step hstep) hclosed)
  · have heffect := hends.effect
    rw [show c.monitor.queue = .shut from
      shut_of_closed h ((closed_iff_exists_close h).2 hsome)] at heffect
    obtain ⟨hresult, hqueue⟩ := heffect.of_shut
    rw [hresult] at hends
    have hmonitor : c'.monitor = c.monitor :=
      hends.eq_of_quiet rfl rfl (hqueue.trans
        (shut_of_closed h ((closed_iff_exists_close h).2 hsome)).symm)
    exact ⟨hmonitor, hresult, by rw [Deed.notice?, hclose, hresult]; rfl⟩

/-! ### Pending calls -/

/-- What a step does to a call that is pending: it stays pending, or must wait, or ends. -/
theorem Step.pending (hstep : Step c c') (h : (c.stage thread).pending? = some (number, call)) :
    c'.stage thread = c.stage thread ∨ c.queue.mustWait = true ∨
      ∃ result, c'.stage thread = .leaving ⟨number, thread, call, result⟩ ∧
        Queue.Effect c.queue call result c'.queue := by
  cases hstep.move with
  | @make other _ idle =>
    have hne : thread ≠ other := by
      rintro rfl
      simp [idle, Stage.pending?] at h
    exact .inl (Function.update_of_ne hne ..)
  | sleep called wait => exact .inr (.inl wait)
  | @finish pick deed monitor called ends =>
    rcases eq_or_ne thread deed.thread with rfl | hne
    · obtain ⟨rfl, rfl⟩ : deed.number = number ∧ deed.call = call := by
        simpa [called, Stage.pending?] using h
      exact .inr (.inr ⟨deed.result, Function.update_self .., ends.effect⟩)
    · exact .inl (Function.update_of_ne hne ..)
  | sleepAgain waiting signalled wait => exact .inr (.inl wait)
  | @finishLate other n result monitor waiting signalled ends =>
    rcases eq_or_ne thread other with rfl | hne
    · obtain ⟨rfl, rfl⟩ : n = number ∧ .dequeue = call := by
        simpa [waiting, Stage.pending?] using h
      exact .inr (.inr ⟨result, Function.update_self .., ends.effect⟩)
    · exact .inl (Function.update_of_ne hne ..)
  | stir => exact .inl rfl
  | @depart other deed leaving =>
    have hne : thread ≠ other := by
      rintro rfl
      simp [leaving, Stage.pending?] at h
    exact .inl (Function.update_of_ne hne ..)

/-- A pending call at a closed queue can end at once. -/
theorem exists_step_of_shut (h : Reachable c) (hshut : c.queue = .shut)
    (hpending : (c.stage thread).pending? = some (number, call)) :
    ∃ c', Step c c' ∧ c'.stage thread = .leaving ⟨number, thread, call, call.refusal⟩ := by
  cases hstage : c.stage thread with
  | called n request =>
    obtain ⟨rfl, rfl⟩ : n = number ∧ request = call := by
      simpa [hstage, Stage.pending?] using hpending
    refine ⟨_, .enter thread 0 hstage, ?_⟩
    rcases hact : c.monitor.act thread 0 request with ⟨_ | result, monitor⟩
    · have hwait := (Monitor.act_sleeps hact).2.1
      simp [show c.monitor.queue = .shut from hshut] at hwait
    · have heffect := (Monitor.act_ends hact).effect
      rw [show c.monitor.queue = .shut from hshut] at heffect
      obtain ⟨rfl, -⟩ := heffect.of_shut
      exact Function.update_self ..
  | waiting n =>
    obtain ⟨rfl, rfl⟩ : n = number ∧ .dequeue = call := by
      simpa [hstage, Stage.pending?] using hpending
    have hclosed : c.queue.closed = true := by rw [hshut]; rfl
    have hroused := ((listed_of_reachable h).asleep_or_roused ⟨n, hstage⟩).resolve_left
      (not_asleep_of_closed h hclosed)
    refine ⟨_, .resume thread hstage hroused.2, ?_⟩
    rcases hretake : c.monitor.retake thread with ⟨_ | result, monitor⟩
    · have hwait := (Monitor.retake_sleeps hretake).1
      simp [show c.monitor.queue = .shut from hshut] at hwait
    · have heffect := (Monitor.retake_ends hretake).effect
      rw [show c.monitor.queue = .shut from hshut] at heffect
      obtain ⟨rfl, -⟩ := heffect.of_shut
      exact Function.update_self ..
  | _ => simp [hstage, Stage.pending?] at hpending

/-! ### After the closing -/

/-- How a crowd goes on when its queue has been closed. -/
structure StaysShut (c c' : Crowd α) : Prop where
  /-- The queue is closed, empty, and holds no buffer. -/
  queue : c'.queue = .shut
  /-- Every call that has ended since was refused, and shows no items. -/
  refused : ∃ later, c'.deeds = c.deeds ++ later ∧
    ∀ deed ∈ later, deed.result = deed.call.refusal ∧ deed.result.shown = []
  /-- No thread sleeps. -/
  awake : ∀ t, ¬ c'.Asleep t
  /-- Every call that is pending can end at once, and is refused. -/
  prompt : ∀ t n call, (c'.stage t).pending? = some (n, call) →
    ∃ c'', Step c' c'' ∧ c''.stage t = .leaving ⟨n, t, call, call.refusal⟩
  /-- No step does anything else to it. -/
  certain : ∀ t n call, (c'.stage t).pending? = some (n, call) → ∀ c'', Step c' c'' →
    c''.stage t = c'.stage t ∨ c''.stage t = .leaving ⟨n, t, call, call.refusal⟩

/-- Calls that end at a closed queue are refused. -/
theorem refused_of_leads (h : Reachable c) (hclosed : c.queue.closed = true)
    (hleads : Leads c c') : ∃ later, c'.deeds = c.deeds ++ later ∧
      ∀ deed ∈ later, deed.result = deed.call.refusal := by
  induction hleads with
  | refl => exact ⟨[], by simp, by simp⟩
  | @tail c₁ c₂ hleads hstep ih =>
    obtain ⟨later, hdeeds, hrefused⟩ := ih
    rcases hstep.ends with ⟨-, -, hsame⟩ | ⟨deed, hends⟩
    · exact ⟨later, hsame.trans hdeeds, hrefused⟩
    · have heffect := hends.effect
      rw [shut_of_closed (h.trans hleads) (closed_of_leads hleads hclosed)] at heffect
      refine ⟨later ++ [deed], by rw [hends.deeds, hdeeds, List.append_assoc], fun d hd ↦ ?_⟩
      rcases List.mem_append.1 hd with hold | hnew
      · exact hrefused d hold
      · obtain rfl := List.mem_singleton.1 hnew
        exact heffect.of_shut.1

theorem staysShut (h : Reachable c) (hclosed : c.queue.closed = true) (hleads : Leads c c') :
    c.StaysShut c' := by
  have hreach : Reachable c' := h.trans hleads
  have hclosed' : c'.queue.closed = true := closed_of_leads hleads hclosed
  have hshut : c'.queue = .shut := shut_of_closed hreach hclosed'
  obtain ⟨later, hdeeds, hrefused⟩ := refused_of_leads h hclosed hleads
  refine ⟨hshut, ⟨later, hdeeds, fun deed hd ↦ ?_⟩, fun t ↦ not_asleep_of_closed hreach hclosed',
    fun t n call ↦ exists_step_of_shut hreach hshut, fun t n call hpending c'' hstep ↦ ?_⟩
  · exact ⟨hrefused deed hd, by rw [hrefused deed hd, Call.shown_refusal]⟩
  · rcases hstep.pending hpending with hsame | hwait | ⟨result, hleaving, heffect⟩
    · exact .inl hsame
    · simp [hshut] at hwait
    · rw [hshut] at heffect
      obtain ⟨rfl, -⟩ := heffect.of_shut
      exact .inr hleaving

/-- **Closing is final and takes effect once.** In every crowd that can be reached, the queue is
closed exactly if a closing call is done. The first such call in the order of the lock shuts the
queue and reports how many items it discards, and no other changes or reports anything. Once the
queue is closed, it stays shut, every call that ends is refused, and no thread waits. -/
theorem closing_is_final (h : Reachable c) :
    (c.queue.closed = true ↔ ∃ deed ∈ c.deeds, deed.call = .close) ∧
      (∀ c' deed, Step c c' → c'.deeds = c.deeds ++ [deed] → deed.call = .close →
        c.TakesEffectOnce deed c') ∧
      (c.queue.closed = true → ∀ c', Leads c c' → c.StaysShut c') :=
  ⟨closed_iff_exists_close h, fun _ _ ↦ takesEffectOnce h, fun hclosed _ ↦ staysShut h hclosed⟩

/-- A thread that was roused for an item is overtaken by two closing calls: the first discards the
item, and the thread goes without one. An item that is put afterwards is refused. -/
theorem closing_is_final_overtaken : ∃ (c c₁ c₂ : Crowd String) (deed : Deed String),
    Reachable c ∧ c.Roused 0 ∧ c.queue.items = ["a"] ∧ Step c c₁ ∧
      c₁.deeds = c.deeds ++ [deed] ∧ deed.call = .close ∧ c.TakesEffectOnce deed c₁ ∧
      c₁.queue.closed = true ∧ Leads c₁ c₂ ∧ c₂.deeds.map Deed.thread = [1, 2, 3, 0, 4] ∧
      c₁.StaysShut c₂ := by
  have h := (reachable_empty : Reachable (empty : Crowd String))
    |>.step (.make 0 .dequeue rfl) |>.step (.enter 0 0 rfl)
    |>.step (.make 1 (.enqueue "a") rfl) |>.step (.enter 1 0 rfl)
    |>.step (.make 2 .close rfl) |>.step (.make 3 .close rfl)
  -- The first closing call ends. The second, the roused thread and another item come after it.
  have h₁ := h.step (.enter 2 0 rfl)
  have hstays : ∀ {c : Crowd String}, Reachable c → Leads c c := fun _ ↦ .refl
  have hleads := hstays h₁
    |>.tail (.enter 3 0 rfl) |>.tail (.resume 0 rfl (by decide))
    |>.tail (.make 4 (.enqueue "b") rfl) |>.tail (.enter 4 0 rfl)
  exact ⟨_, _, _, ⟨2, 2, .close, .closed (some 1)⟩, h, ⟨⟨0, rfl⟩, by decide⟩, rfl, .enter 2 0 rfl,
    rfl, rfl, (closing_is_final h).2.1 _ _ (.enter 2 0 rfl) rfl rfl, rfl, hleads, rfl,
    (closing_is_final h₁).2.2 rfl _ hleads⟩

end Crowd

end QueueJournal
