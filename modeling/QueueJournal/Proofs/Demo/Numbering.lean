import QueueJournal.Proofs.Demo.History

/-!
# The numbers of a demonstration's events

When a demonstration is over, the numbers in its journal are an interval, and they tell the shutdown
in order, although the journal does not: all items were put before the closing, and every consumer
ended after it (`State.numbers`).

Both orders hold in the list of the events as they are numbered. No item is put once the closing has
a number, since the coordinator has seen every producer end; and no consumer is given none before
the queue is closed, when the closing has its number already.
-/

namespace QueueJournal.Demo

namespace State

variable {plan : Plan} {s : State} {first : Nat} {drawn : List (Event String)} {w : Worker}
  {e : Event String}

/-- A consumer has nothing more to take only when the queue is closed. -/
theorem Orderly.hasClosed_of_lacking (h : s.Orderly plan) {c : Nat}
    (hmem : Gist.lacking ∈ (s.desk (.consumer c)).sketches) : s.coordinator.hasClosed = true := by
  have hnot : ∀ n, Gist.lacking ∉ List.replicate n (Gist.took : Gist String) := fun n hmem ↦ by
    cases List.eq_of_mem_replicate hmem
  cases found : s.consumers[c]? with
  | none => simp [desk, found, Desk.clear] at hmem
  | some consumer =>
    rw [desk_consumer found] at hmem
    have hsound := (h.consumer c consumer found).sound
    cases hsound with
    | finished hclosed => exact hclosed
    | @filing count stamp item hitem =>
      apply hitem
      cases item with
      | none => rfl
      | some a =>
        rcases List.mem_append.1 hmem with hmem | hmem
        · exact absurd hmem (hnot count)
        · cases List.mem_singleton.1 hmem
    | _ => exact absurd hmem (hnot _)

namespace History

/-- The sketch of an event lies on the desk of its worker. -/
theorem sketch_mem (h : History plan first s drawn) (he : e ∈ drawn) (records : w.Records e) :
    e.sketch ∈ (s.desk w).sketches := by
  rw [← h.sketches w]
  exact List.mem_map_of_mem (List.mem_filter.2 ⟨he, beq_iff_eq.2 records.worker_eq⟩)

/-- Once the closing has its number, the coordinator has seen the queue empty. -/
theorem hasSeenEmpty_of_close (h : History plan first s drawn) (he : e ∈ drawn)
    (hop : e.operation = .close) : s.coordinator.HasSeenEmpty := by
  obtain ⟨w, records⟩ := h.exists_records he
  have hmem := h.sketch_mem he records
  cases records with
  | close =>
    rw [desk] at hmem
    cases hstage : s.coordinator <;> simp_all [CoordinatorStage.desk, Desk.clear]
  | _ => cases hop

/-- Once the end of a consumer has its number, the queue is closed. -/
theorem hasClosed_of_refused (h : History plan first s drawn) (he : e ∈ drawn)
    (hop : e.operation = .dequeue) (refused : e.accepted = false) :
    s.coordinator.hasClosed = true := by
  obtain ⟨w, records⟩ := h.exists_records he
  have hmem := h.sketch_mem he records
  cases records with
  | take c item stamp =>
    have hsketch : (Event.dequeue stamp (consumerName c) item).sketch = .lacking := by
      rw [Event.sketch, if_pos hop, refused]
      rfl
    exact (orderly_of_reachable h.reachable).hasClosed_of_lacking (hsketch ▸ hmem)
  | _ => cases hop

/-- **No item is put after the closing has its number.** -/
theorem pairwise_put (h : History plan first s drawn) :
    drawn.Pairwise fun e f ↦ e.operation = .close → f.operation ≠ .enqueue := by
  refine h.pairwise fun before draws e he hclose ↦ ?_
  cases draws with
  | @put now p index producer found stamping =>
    -- The coordinator has seen the producer end, but it has not ended.
    have hempty := before.hasSeenEmpty_of_close he hclose
    have hended := ((orderly_of_reachable before.reachable).producer p producer found).seen
      (CoordinatorStage.hasSeenProducer_of_hasSeenEmpty hempty p)
    simp [stamping] at hended
  | _ => simp [Event.close, Event.dequeue]

/-- **No consumer ends before the closing has its number.** -/
theorem pairwise_refused (h : History plan first s drawn) :
    drawn.Pairwise fun e f ↦ f.operation = .close → e.operation = .dequeue →
      e.accepted = true := by
  refine h.pairwise fun before draws e he hclose hop ↦ ?_
  cases draws with
  | close stage =>
    -- The queue is still open, so no consumer has been given none.
    by_contra hrefused
    have hclosed := before.hasClosed_of_refused he hop (by simpa using hrefused)
    simp [stage] at hclosed
  | _ => cases hclose

end History

end State

/-! ### Numbering -/

/-- The events of a demonstration are numbered without gaps, and the numbers tell its end in order.
-/
structure Numbering (plan : Plan) (s : State) : Prop where
  /-- The numbers in the journal are an interval, and each is there once. -/
  interval : ∃ first, (s.journal.entries.map Event.id).Perm (List.range' first s.journal.length)
  /-- The journal has the events of one worker in the order of their numbers. -/
  ordered : ∀ name, (s.journal.entriesOf name).Pairwise fun e f ↦ e.id < f.id
  /-- The coordinator has recorded the closing and nothing else. Its number is greater than those of
  the items that were put, and smaller than those of the consumers that were given none. -/
  closing : ∃ closing, s.journal.entriesOf coordinatorName = [closing] ∧
    closing.operation = .close ∧
    (∀ e ∈ s.journal.entries, e.operation = .enqueue → e.id < closing.id) ∧
    ∀ e ∈ s.journal.entries, e.operation = .dequeue → e.accepted = false → closing.id < e.id
  /-- A consumer has recorded the items that it took, and at last that it was given none. -/
  consumer : ∀ c < plan.consumers, ∃ taken last,
    s.journal.entriesOf (consumerName c) = taken ++ [last] ∧
      (∀ e ∈ taken, e.operation = .dequeue ∧ e.accepted = true) ∧
      last.operation = .dequeue ∧ last.accepted = false ∧ last.item = none

namespace State

variable {plan : Plan} {s : State} {first : Nat} {drawn : List (Event String)}

/-- When the demonstration is over, the coordinator has numbered the closing and nothing else. -/
theorem History.exists_closing (h : History plan first s drawn) (hfinished : s.isFinished = true) :
    ∃ closing, s.journal.entriesOf coordinatorName = [closing] ∧ closing ∈ drawn ∧
      closing.operation = .close := by
  have hsketches := h.sketches .coordinator
  rw [desk, coordinator_of_isFinished hfinished] at hsketches
  obtain ⟨closing, hlog, hsketch⟩ := List.map_eq_singleton_iff.1 hsketches
  refine ⟨closing, (h.entriesOf_of_isFinished hfinished _).trans hlog, ?_, ?_⟩
  · exact (List.mem_filter.1 (hlog ▸ List.mem_singleton_self closing)).1
  · rw [← closing.operation_sketch, hsketch]
    rfl

/-- When the demonstration is over, a consumer has numbered the items that it took, and at last that
it was given none. -/
theorem History.exists_end (h : History plan first s drawn) (hfinished : s.isFinished = true)
    {c : Nat} (hc : c < plan.consumers) : ∃ taken last,
    s.journal.entriesOf (consumerName c) = taken ++ [last] ∧
      (∀ e ∈ taken, e.operation = .dequeue ∧ e.accepted = true) ∧
      last.operation = .dequeue ∧ last.accepted = false ∧ last.item = none := by
  have hlt : c < s.consumers.length := by
    rwa [(orderly_of_reachable h.reachable).length_consumers]
  have found := List.getElem?_eq_getElem hlt
  have hsketches := h.sketches (.consumer c)
  rw [desk_consumer found, Consumer.desk, consumer_of_isFinished h.reachable hfinished found]
    at hsketches
  obtain ⟨taken, ended, hlog, htaken, hended⟩ := List.map_eq_append_iff.1 hsketches
  obtain ⟨last, rfl, hlast⟩ := List.map_eq_singleton_iff.1 hended
  have hoperation : last.operation = .dequeue := by rw [← last.operation_sketch, hlast]; rfl
  have hrefused : last.accepted = false := by rw [← last.accepted_sketch, hlast]; rfl
  refine ⟨taken, last, (h.entriesOf_of_isFinished hfinished _).trans hlog, fun e he ↦ ?_,
    hoperation, hrefused, ?_⟩
  · have hsketch := List.eq_of_mem_replicate (htaken ▸ List.mem_map_of_mem he)
    rw [← e.operation_sketch, ← e.accepted_sketch, hsketch]
    exact ⟨rfl, rfl⟩
  · have hmem : last ∈ drawn.filter (·.worker == consumerName c) :=
      hlog ▸ List.mem_append_right taken (List.mem_singleton_self last)
    obtain ⟨w, records⟩ := h.exists_records (List.mem_filter.1 hmem).1
    cases records with
    | take c item stamp => simpa [Event.dequeue] using hrefused
    | _ => cases hoperation

/-- **The numbers of a demonstration have no gaps and tell its end in order.** However its steps are
interleaved, when it is over each number from the first to the last is in the journal once. All
items were put before the closing, and all consumers ended after it. -/
theorem numbers (h : Reachable plan s) (hfinished : s.isFinished = true) : Numbering plan s := by
  obtain ⟨first, drawn, hhistory⟩ := exists_history h
  have hperm := hhistory.perm_of_isFinished hfinished
  obtain ⟨closing, hentries, hmem, hclose⟩ := hhistory.exists_closing hfinished
  refine ⟨⟨first, ?_⟩, fun name ↦ ?_, ⟨closing, hentries, hclose, ?_, ?_⟩, fun c hc ↦ ?_⟩
  · rw [Journal.length, hperm.length_eq, ← hhistory.ids_eq]
    exact hperm.map Event.id
  · rw [hhistory.entriesOf_of_isFinished hfinished]
    exact hhistory.pairwise_id.filter _
  · intro e he hput
    refine hhistory.id_lt_of_pairwise hhistory.pairwise_put (hperm.mem_iff.1 he) hmem ?_ ?_
    · rintro rfl
      simp [hclose] at hput
    · exact fun hnot ↦ hnot hclose hput
  · intro e he hop hrefused
    refine hhistory.id_lt_of_pairwise hhistory.pairwise_refused hmem (hperm.mem_iff.1 he) ?_ ?_
    · rintro rfl
      simp [hclose] at hop
    · exact fun hnot ↦ by simp [hnot hclose hop] at hrefused
  · exact hhistory.exists_end hfinished hc

/-- The coordinator files the closing after the ends of both consumers. -/
theorem numbers_late_closing : ∃ s, Reachable ⟨1, 2, 1⟩ s ∧ s.isFinished = true ∧
    s.journal.entries.map Event.id = [1, 2, 4, 5, 3] ∧ Numbering ⟨1, 2, 1⟩ s := by
  let actions : List Action := List.flatten [.replicate 5 .coordinator,
    .replicate 4 (.producer 0 0), .replicate 2 .coordinator, .replicate 3 (.consumer 0),
    .replicate 3 .coordinator, .replicate 3 (.consumer 0), .replicate 3 (.consumer 1),
    .replicate 4 .coordinator]
  have hsteps : (actions.foldlM (next? ⟨1, 2, 1⟩) (initial ⟨1, 2, 1⟩ 1 0)).map (fun s ↦
      (s.isFinished, s.journal.entries.map Event.id)) = some (true, [1, 2, 4, 5, 3]) := by
    decide +kernel
  obtain ⟨s, hreach, hview⟩ := Reachable.exists_of_foldlM hsteps
  obtain ⟨hfinished, hids⟩ := Prod.mk.inj hview
  exact ⟨s, hreach, hfinished, hids, numbers hreach hfinished⟩

end State

end QueueJournal.Demo
