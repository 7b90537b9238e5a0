import QueueJournal.Proofs.Crowd.Wakeup
import QueueJournal.Proofs.Demo.Order

/-!
# A demonstration is a crowd

The workers of a demonstration call the operations of its queue as the threads of a crowd do, and
nothing else touches the queue. For every state of a demonstration that can be reached there is
therefore a crowd that can be reached and has the same queue and the same threads waiting
(`exists_crowd`). What is known of crowds comes down to demonstrations in this way: the monitor's
lists are the consumers that wait, each once, and no wakeup is lost (`attended_of_reachable`).
-/

namespace QueueJournal

/-! ### Calls of a crowd from beginning to end -/

namespace Crowd

variable {α : Type} [Item α] {c : Crowd α} {thread pick number : Nat} {call : Call α}
  {result : Result α} {monitor : Monitor α}

/-- A thread can make a call that ends as soon as it has the lock, and return. -/
theorem exists_after_call (h : Reachable c) (idle : c.stage thread = .idle)
    (acts : c.monitor.act thread pick call = (some result, monitor)) :
    ∃ c', Reachable c' ∧ c'.monitor = monitor ∧ c'.stage = c.stage := by
  have hcalled : (c.make thread call).stage thread = .called c.calls call := by simp [make]
  have hmade := h.step (.make thread call idle)
  have hended := hmade.step (.enter thread pick hcalled)
  rw [show (c.make thread call).monitor = c.monitor from rfl, acts, settle] at hended
  have hleft := hended.step (.depart thread (Function.update_self ..))
  refine ⟨_, hleft, rfl, ?_⟩
  simp [depart, finish, make, ← idle]

/-- A thread can ask for an item and fall asleep. -/
theorem exists_after_sleep (h : Reachable c) (idle : c.stage thread = .idle)
    (acts : c.monitor.act thread pick .dequeue = (none, monitor)) :
    ∃ c', Reachable c' ∧ c'.monitor = monitor ∧
      ∃ number, c'.stage = Function.update c.stage thread (.waiting number) := by
  have hcalled : (c.make thread .dequeue).stage thread = .called c.calls .dequeue := by simp [make]
  have hmade := h.step (.make thread .dequeue idle)
  have hasleep := hmade.step (.enter thread pick hcalled)
  rw [show (c.make thread .dequeue).monitor = c.monitor from rfl, acts, settle] at hasleep
  exact ⟨_, hasleep, rfl, c.calls, by simp [sleep, make]⟩

/-- A thread that was roused can fall asleep again. -/
theorem exists_after_sleepAgain (h : Reachable c) (roused : c.Roused thread)
    (retakes : c.monitor.retake thread = (none, monitor)) :
    ∃ c', Reachable c' ∧ c'.monitor = monitor ∧ c'.stage = c.stage := by
  obtain ⟨⟨number, waiting⟩, signalled⟩ := roused
  have hasleep := h.step (.resume thread waiting signalled)
  rw [retakes, settle] at hasleep
  exact ⟨_, hasleep, rfl, by simp [sleep, ← waiting]⟩

/-- A thread that was roused can end its call and return. -/
theorem exists_after_callLate (h : Reachable c) (roused : c.Roused thread)
    (retakes : c.monitor.retake thread = (some result, monitor)) :
    ∃ c', Reachable c' ∧ c'.monitor = monitor ∧
      c'.stage = Function.update c.stage thread .idle := by
  obtain ⟨⟨number, waiting⟩, signalled⟩ := roused
  have hended := h.step (.resume thread waiting signalled)
  rw [retakes, settle] at hended
  have hleft := hended.step (.depart thread (Function.update_self ..))
  exact ⟨_, hleft, rfl, by simp [depart, finish]⟩

end Crowd

namespace Demo

/-- A consumer waits for an item. -/
def Consumer.Waits (consumer : Consumer) : Prop :=
  consumer.stage = .waiting

namespace State

variable {plan : Plan} {s s' : State} {action : Action} {c c' : Crowd String}

/-- A crowd has the queue of a demonstration, and those threads wait whose number is that of a
waiting consumer. -/
structure Mirrors (c : Crowd String) (s : State) : Prop where
  /-- The queues and their lists are the same. -/
  monitor : c.monitor = s.monitor
  /-- A consumer that waits does so in the crowd. -/
  waits : ∀ t, ∀ consumer : Consumer, s.consumers[t]? = some consumer → consumer.Waits →
    (c.stage t).Waits
  /-- Any other thread of the crowd is idle. -/
  idle : ∀ t, (∀ consumer : Consumer, s.consumers[t]? = some consumer → ¬ consumer.Waits) →
    c.stage t = .idle

namespace Mirrors

/-- The demonstration goes on without the queue, and no consumer begins or ceases to wait. -/
theorem keep (h : Mirrors c s) (monitor : s'.monitor = s.monitor)
    (consumers : s'.consumers = s.consumers) : Mirrors c s' := by
  refine ⟨h.monitor.trans monitor.symm, ?_, ?_⟩
  · rw [consumers]
    exact h.waits
  · rw [consumers]
    exact h.idle

/-- Thread `t` goes on in the crowd as consumer `t` does. -/
theorem move (h : Mirrors c s) {t : Nat} {old new : Consumer} (found : s.consumers[t]? = some old)
    (monitor : c'.monitor = s'.monitor) (consumers : s'.consumers = s.consumers.set t new)
    (others : ∀ u, u ≠ t → c'.stage u = c.stage u) (waits : new.Waits → (c'.stage t).Waits)
    (idle : ¬ new.Waits → c'.stage t = .idle) : Mirrors c' s' := by
  have hlt : t < s.consumers.length := (List.getElem?_eq_some_iff.1 found).1
  refine ⟨monitor, ?_, ?_⟩
  · intro u consumer hu hwaits
    rw [consumers] at hu
    rcases eq_or_ne t u with rfl | hne
    · rw [List.getElem?_set_self hlt, Option.some.injEq] at hu
      exact waits (hu ▸ hwaits)
    · rw [List.getElem?_set_ne hne] at hu
      rw [others u hne.symm]
      exact h.waits u consumer hu hwaits
  · intro u hnone
    rw [consumers] at hnone
    rcases eq_or_ne t u with rfl | hne
    · exact idle (hnone new (List.getElem?_set_self hlt))
    · rw [List.getElem?_set_ne hne] at hnone
      rw [others u hne.symm]
      exact h.idle u hnone

/-- A consumer that does not wait goes on without the queue. -/
theorem moveAwake (h : Mirrors c s) {t : Nat} {old new : Consumer}
    (found : s.consumers[t]? = some old) (awake : ¬ old.Waits) (awake' : ¬ new.Waits)
    (monitor : s'.monitor = s.monitor) (consumers : s'.consumers = s.consumers.set t new) :
    Mirrors c s' := by
  refine h.move found (h.monitor.trans monitor.symm) consumers (fun _ _ ↦ rfl)
    (fun hwaits ↦ absurd hwaits awake') fun _ ↦ h.idle t fun consumer hc ↦ ?_
  rw [found, Option.some.injEq] at hc
  exact hc ▸ awake

/-- Somebody other than a consumer calls an operation of the queue. -/
theorem call (h : Mirrors c s) (hc : c.Reachable) {pick : Nat} {call : Call String}
    {result : Result String}
    (acts : ∀ thread, s.monitor.act thread pick call = (some result, s'.monitor))
    (consumers : s'.consumers = s.consumers) : ∃ c', c'.Reachable ∧ Mirrors c' s' := by
  -- A thread whose number is that of no consumer makes the call.
  have hidle : c.stage s.consumers.length = .idle :=
    h.idle _ fun consumer hfound ↦ by simp at hfound
  obtain ⟨c', hc', hmonitor, hstage⟩ :=
    Crowd.exists_after_call hc hidle (h.monitor ▸ acts s.consumers.length)
  refine ⟨c', hc', hmonitor, ?_, ?_⟩
  · rw [consumers, hstage]
    exact h.waits
  · rw [consumers, hstage]
    exact h.idle

theorem step (h : Mirrors c s) (hc : c.Reachable) (horder : s.Orderly plan)
    (hstep : s.Step plan action s') : ∃ c', c'.Reachable ∧ Mirrors c' s' := by
  have idle_of_awake : ∀ {t : Nat} {consumer : Consumer}, s.consumers[t]? = some consumer →
      ¬ consumer.Waits → c.stage t = .idle := by
    intro t consumer found awake
    refine h.idle t fun other hother ↦ ?_
    rw [found, Option.some.injEq] at hother
    exact hother ▸ awake
  cases hstep.move with
  | @hireConsumer now started consumer stage found =>
    have hunborn : consumer.stage = .unborn := by
      rw [(horder.consumer started consumer found).hired, stage]
      exact Nat.lt_irrefl started
    exact ⟨c, hc, h.moveAwake found (by simp [Consumer.Waits, hunborn]) (by simp [Consumer.Waits])
      rfl rfl⟩
  | close stage acts => exact h.call hc acts rfl
  | put found ready more acts => exact h.call hc acts rfl
  | putInVain found ready more acts => exact h.call hc acts rfl
  | @sleep now t consumer monitor found asking acts =>
    have hidle := idle_of_awake found (by simp [Consumer.Waits, asking])
    obtain ⟨c', hc', hmonitor, number, hstage⟩ :=
      Crowd.exists_after_sleep hc hidle (h.monitor ▸ acts)
    refine ⟨c', hc', h.move found hmonitor rfl ?_ ?_ ?_⟩
    · intro u hne
      rw [hstage, Function.update_of_ne hne]
    · exact fun _ ↦ ⟨number, by rw [hstage, Function.update_self]⟩
    · exact fun hawake ↦ absurd rfl hawake
  | @take now t consumer item monitor found asking acts =>
    have hidle := idle_of_awake found (by simp [Consumer.Waits, asking])
    obtain ⟨c', hc', hmonitor, hstage⟩ := Crowd.exists_after_call hc hidle (h.monitor ▸ acts)
    refine ⟨c', hc', h.move found hmonitor rfl ?_ ?_ ?_⟩
    · exact fun u _ ↦ by rw [hstage]
    · simp [Consumer.Waits]
    · exact fun _ ↦ by rw [hstage, hidle]
  | @sleepAgain now t consumer monitor found waiting signalled retakes =>
    have hwaits := h.waits t consumer found waiting
    obtain ⟨c', hc', hmonitor, hstage⟩ :=
      Crowd.exists_after_sleepAgain hc ⟨hwaits, h.monitor ▸ signalled⟩ (h.monitor ▸ retakes)
    refine ⟨c', hc', h.move found hmonitor rfl ?_ ?_ ?_⟩
    · exact fun u _ ↦ by rw [hstage]
    · exact fun _ ↦ hstage ▸ hwaits
    · exact fun hawake ↦ absurd rfl hawake
  | @takeLate now t consumer item monitor found waiting signalled retakes =>
    have hwaits := h.waits t consumer found waiting
    obtain ⟨c', hc', hmonitor, hstage⟩ :=
      Crowd.exists_after_callLate hc ⟨hwaits, h.monitor ▸ signalled⟩ (h.monitor ▸ retakes)
    refine ⟨c', hc', h.move found hmonitor rfl ?_ ?_ ?_⟩
    · intro u hne
      rw [hstage, Function.update_of_ne hne]
    · simp [Consumer.Waits]
    · exact fun _ ↦ by rw [hstage, Function.update_self]
  | @stampTake now t consumer item found stamping =>
    exact ⟨c, hc, h.moveAwake found (by simp [Consumer.Waits, stamping]) (by simp [Consumer.Waits])
      rfl rfl⟩
  | @fileTake now t consumer event found filing =>
    exact ⟨c, hc, h.moveAwake found (by simp [Consumer.Waits, filing]) (by simp [Consumer.Waits])
      rfl rfl⟩
  | @endConsumer now t consumer event found filing =>
    exact ⟨c, hc, h.moveAwake found (by simp [Consumer.Waits, filing]) (by simp [Consumer.Waits])
      rfl rfl⟩
  | @stir now t parked =>
    refine ⟨_, hc.step (.stir t (h.monitor ▸ parked)), ?_, h.waits, h.idle⟩
    rw [h.monitor]
  | _ => exact ⟨c, hc, h.keep rfl rfl⟩

end Mirrors

/-- **A demonstration is a crowd.** For every state that can be reached there is a crowd that can be
reached and has the same queue and the same threads waiting. -/
theorem exists_crowd (h : Reachable plan s) : ∃ c : Crowd String, c.Reachable ∧ Mirrors c s := by
  induction h with
  | initial firstId now =>
    refine ⟨.empty, Crowd.reachable_empty, rfl, ?_, fun _ _ ↦ rfl⟩
    intro t consumer found hwaits
    obtain rfl := List.eq_of_mem_replicate (List.mem_of_getElem? found)
    cases hwaits
  | step hreach hstep ih =>
    obtain ⟨c, hc, hmirrors⟩ := ih
    exact hmirrors.step hc (orderly_of_reachable hreach) hstep

/-! ### What comes down from the crowd -/

theorem attended_of_reachable (h : Reachable plan s) : s.monitor.Attended := by
  obtain ⟨c, hc, hmirrors⟩ := exists_crowd h
  exact hmirrors.monitor ▸ Crowd.attended_of_reachable hc

theorem nodup_waiting_of_reachable (h : Reachable plan s) : s.monitor.waiting.Nodup := by
  obtain ⟨c, hc, hmirrors⟩ := exists_crowd h
  exact hmirrors.monitor ▸ (Crowd.listed_of_reachable hc).nodup

/-- The monitor's lists are the consumers that wait. -/
theorem mem_waiting_iff (h : Reachable plan s) {t : Nat} :
    t ∈ s.monitor.waiting ↔ ∃ consumer, s.consumers[t]? = some consumer ∧ consumer.Waits := by
  obtain ⟨c, hc, hmirrors⟩ := exists_crowd h
  rw [← hmirrors.monitor, (Crowd.listed_of_reachable hc).mem_iff]
  constructor
  · rintro ⟨number, hwaiting⟩
    by_contra hnone
    have hidle := hmirrors.idle t fun consumer found hwaits ↦ hnone ⟨consumer, found, hwaits⟩
    simp [hidle] at hwaiting
  · rintro ⟨consumer, found, hwaits⟩
    exact hmirrors.waits t consumer found hwaits

end State

end Demo

end QueueJournal
