import QueueJournal.Proofs.Demo.Numbering

/-!
# How far the numbers tell the order of puts and takes

A worker numbers its event some time after its call, and others can overtake it in between. So an
item may be numbered as taken before it is numbered as put, and after the closing is numbered
(`State.not_ordered`).

But each worker is late with one call at most. A producer has numbered all items in front of the one
that it has put last, so only the item's own event can be overtaken. And the queue is empty when the
closing is numbered, so a consumer can be late with the last item that it takes, and with no other
(`State.chronology`).
-/

namespace QueueJournal.Demo

/-- A consumer has been given an item and has not numbered it. -/
def Consumer.IsLate (consumer : Consumer) : Prop :=
  ∃ item, consumer.stage = .stamping (some item)

namespace State

variable {plan : Plan} {s s' : State} {action : Action} {first : Nat} {drawn : List (Event String)}
  {e : Event String} {taken : Multiset String} {item : String}

/-! ### Items that are taken have been put -/

/-- What a consumer holds has been put. -/
theorem mem_put_of_held (h : Reachable plan s) {c : Nat} {consumer : Consumer}
    (found : s.consumers[c]? = some consumer) (hitem : item ∈ consumer.held) : item ∈ s.put := by
  obtain ⟨taken, hbalanced⟩ := exists_balanced h
  have hheld : item ∈ s.held := mem_sumOver.2 ⟨c, consumer, found, hitem⟩
  rw [hbalanced.items]
  exact Multiset.mem_add.2 (.inl (Multiset.mem_add.2 (.inr hheld)))

/-- An item is recorded as taken only by an event of that. -/
theorem taken_notMem_recorded : Gist.taken item ∉ s.recorded := by
  rw [recorded, Multiset.mem_add, Multiset.mem_add, mem_sumOver, mem_sumOver]
  rintro ((⟨p, producer, -, hmem⟩ | ⟨c, consumer, -, hmem⟩) | hmem)
  · obtain ⟨a, -, ha⟩ := Multiset.mem_map.1 hmem
    cases ha
  · cases hstage : consumer.stage <;> simp_all [Consumer.gists, Gist.taken, Gist.lacking]
  · cases hstage : s.coordinator <;>
      simp_all [CoordinatorStage.gists, Gist.taken, Gist.closed]

/-- What is recorded as taken has been put. -/
theorem mem_put_of_journal (h : Reachable plan s) (he : e ∈ s.journal.entries)
    (hgist : e.gist = .taken item) : item ∈ s.put := by
  obtain ⟨taken, hbalanced⟩ := exists_balanced h
  have hmem : Gist.taken item ∈ s.gists := hgist ▸ List.mem_map_of_mem he
  rw [hbalanced.journal, Multiset.mem_add] at hmem
  obtain ⟨a, ha, hitem⟩ := Multiset.mem_map.1 (hmem.resolve_left taken_notMem_recorded)
  obtain rfl : a = item := by simpa [Gist.taken] using hitem
  rw [hbalanced.items]
  exact Multiset.mem_add.2 (.inr ha)

/-- A consumer whose desk has an event is about to file it. -/
theorem exists_filing {c : Nat} (h : (s.desk (.consumer c)).draft = some e) :
    ∃ consumer, s.consumers[c]? = some consumer ∧ consumer.stage = .filing e := by
  cases found : s.consumers[c]? with
  | none => simp [desk, found, Desk.clear] at h
  | some consumer =>
    rw [desk_consumer found] at h
    refine ⟨consumer, rfl, ?_⟩
    cases hstage : consumer.stage <;> simp_all [Consumer.desk, Desk.draw]

/-- What is numbered as taken has been put. -/
theorem History.mem_put (h : History plan first s drawn) (he : e ∈ drawn)
    (hop : e.operation = .dequeue) (hitem : e.item = some item) : item ∈ s.put := by
  obtain ⟨w, records⟩ := h.exists_records he
  have hlog : e ∈ drawn.filter (·.worker == w.name) :=
    List.mem_filter.2 ⟨he, beq_iff_eq.2 records.worker_eq⟩
  rw [h.log w] at hlog
  cases records with
  | take c given stamp =>
    obtain rfl : given = some item := hitem
    rcases List.mem_append.1 hlog with hfiled | hdraft
    · exact mem_put_of_journal h.reachable (List.mem_filter.1 hfiled).1 rfl
    · -- The consumer still holds the event, and the item with it.
      obtain ⟨consumer, found, filing⟩ := exists_filing (Option.mem_toList.1 hdraft)
      refine mem_put_of_held h.reachable found ?_
      rw [Consumer.held, filing]
      exact List.mem_singleton_self item
  | _ => cases hop

/-- The items that a producer has put are its first. -/
theorem le_accepted_of_mem_put {p n : Nat} {producer : Producer}
    (found : s.producers[p]? = some producer) (hmem : itemName p n ∈ s.put) :
    n ≤ producer.accepted := by
  obtain ⟨q, other, hq, hitem⟩ := mem_sumOver.1 hmem
  obtain ⟨k, hk, hname⟩ := Multiset.mem_map.1 hitem
  obtain ⟨rfl, rfl⟩ := itemName_inj hname
  obtain rfl := Option.some_inj.1 (hq.symm.trans found)
  exact Multiset.mem_range.1 hk

/-- **Once an item is numbered as taken, no item in front of it is numbered as put.** -/
theorem History.pairwise_taken (h : History plan first s drawn) :
    drawn.Pairwise fun d e ↦ ∀ p m n, d.operation = .dequeue → d.item = some (itemName p n) →
      e.operation = .enqueue → e.item = some (itemName p m) → n ≤ m := by
  refine h.pairwise fun before draws d hd p m n htake hn hput hm ↦ ?_
  cases draws with
  | @put now q index producer found stamping =>
    obtain ⟨rfl, rfl⟩ := itemName_inj (Option.some_inj.1 hm)
    have hsound := ((orderly_of_reachable before.reachable).producer q producer found).sound
    cases hsound with
    | stamping => exact le_accepted_of_mem_put found (before.mem_put hd htake hn)
    | _ => cases stamping
  | _ => cases hput

/-! ### Items that are numbered late -/

/-- A consumer that is given an item takes it from a queue that is not empty. -/
theorem Orderly.not_hasSeenEmpty_of_given (h : s.Orderly plan) {q : Queue String}
    (effect : Queue.Effect s.monitor.queue .dequeue (.item (some item)) q)
    (ready : s.monitor.queue.mustWait = false) : ¬ s.coordinator.HasSeenEmpty := by
  intro hempty
  rcases effect.of_ready ready with ⟨a, items, -, head, -, -⟩ | ⟨-, hnone, -⟩
  · simp [h.emptied hempty] at head
  · cases hnone

/-- A consumer becomes late before the coordinator has seen the queue empty. -/
theorem Orderly.isLate_of_step (h : s.Orderly plan) (hstep : s.Step plan action s') :
    ∀ (c : Nat) (consumer : Consumer), s'.consumers[c]? = some consumer → consumer.IsLate →
      (∃ old : Consumer, s.consumers[c]? = some old ∧ old.IsLate) ∨
        ¬ s.coordinator.HasSeenEmpty := by
  have hkeep : ∀ (c : Nat) (consumer : Consumer), s.consumers[c]? = some consumer →
      consumer.IsLate → (∃ old : Consumer, s.consumers[c]? = some old ∧ old.IsLate) ∨
        ¬ s.coordinator.HasSeenEmpty :=
    fun c consumer found hlate ↦ .inl ⟨consumer, found, hlate⟩
  cases hstep.move with
  | hireConsumer => exact forall_getElem?_set hkeep (by simp [Consumer.IsLate])
  | sleep => exact forall_getElem?_set hkeep (by simp [Consumer.IsLate])
  | sleepAgain => exact forall_getElem?_set hkeep (by simp [Consumer.IsLate])
  | take found asking acts =>
    have hends := Monitor.act_ends acts
    refine forall_getElem?_set hkeep fun hlate ↦ .inr ?_
    obtain ⟨item, hitem⟩ := hlate
    cases hitem
    exact h.not_hasSeenEmpty_of_given hends.effect (hends.ready rfl)
  | takeLate found waiting signalled retakes =>
    have hends := Monitor.retake_ends retakes
    refine forall_getElem?_set hkeep fun hlate ↦ .inr ?_
    obtain ⟨item, hitem⟩ := hlate
    cases hitem
    exact h.not_hasSeenEmpty_of_given hends.effect (h.ready_of_retake retakes)
  | stampTake => exact forall_getElem?_set hkeep (by simp [Consumer.IsLate])
  | fileTake => exact forall_getElem?_set hkeep (by simp [Consumer.IsLate])
  | endConsumer => exact forall_getElem?_set hkeep (by simp [Consumer.IsLate])
  | _ => exact hkeep

/-- **A consumer that is late has numbered all else before the closing.** -/
theorem History.id_lt_of_isLate (h : History plan first s drawn) :
    ∀ c, ∀ consumer : Consumer, s.consumers[c]? = some consumer → consumer.IsLate →
      ∀ d ∈ drawn, d.worker = consumerName c → ∀ f ∈ drawn, f.operation = .close →
        d.id < f.id := by
  induction h with
  | initial now => exact fun _ _ _ _ d hd ↦ nomatch hd
  | @step s s' action drawn drawn' before hstep enters ih =>
    intro c consumer found hlate d hd hworker f hf hclose
    rcases (orderly_of_reachable before.reachable).isLate_of_step hstep c consumer found hlate with
      ⟨old, hold, hwas⟩ | hnot
    · have hclear := ih c old hold hwas
      cases enters with
      | nothing => exact hclear d hd hworker f hf hclose
      | file => exact hclear d hd hworker f hf hclose
      | @draw w e draws journal nextId draft desk =>
        rcases List.mem_append.1 hd with hd | hd
        · rcases List.mem_append.1 hf with hf | hf
          · exact hclear d hd hworker f hf hclose
          · rw [List.mem_singleton.1 hf, draws.id_eq]
            exact before.id_lt_nextId hd
        · -- The consumer has not numbered anything, since it is still late.
          obtain rfl := List.mem_singleton.1 hd
          obtain rfl : w = .consumer c :=
            Worker.name_inj (draws.records.worker_eq.symm.trans hworker)
          have hdesk := congrFun desk (.consumer c)
          obtain ⟨item, stamping⟩ := hlate
          rw [Function.update_self, desk_consumer found, Consumer.desk, stamping] at hdesk
          cases congrArg Desk.draft hdesk
    · -- The closing has no number yet.
      have hnone : ∀ f ∈ drawn, f.operation ≠ .close := fun f hf hclose ↦
        hnot (before.hasSeenEmpty_of_close hf hclose)
      cases enters with
      | nothing => exact absurd hclose (hnone f hf)
      | file => exact absurd hclose (hnone f hf)
      | draw draws =>
        rcases List.mem_append.1 hf with hf | hf
        · exact absurd hclose (hnone f hf)
        · obtain rfl := List.mem_singleton.1 hf
          cases draws with
          | close stage => exact absurd (by simp [stage]) hnot
          | _ => cases hclose

/-- **What a consumer has numbered before it takes another item, it has numbered before the
closing.** -/
theorem History.id_lt_of_taken (h : History plan first s drawn) :
    ∀ d ∈ drawn, ∀ d' ∈ drawn, ∀ f ∈ drawn, d.worker = d'.worker → d.id < d'.id →
      d'.operation = .dequeue → d'.accepted = true → f.operation = .close → d.id < f.id := by
  induction h with
  | initial now => exact fun d hd ↦ nomatch hd
  | @step s s' action drawn drawn' before hstep enters ih =>
    cases enters with
    | nothing => exact ih
    | file => exact ih
    | @draw w e draws =>
      intro d hd d' hd' f hf hworker hlt htake haccepted hclose
      -- The event that is numbered now comes last, so it is not `d`.
      have hfirst : d ∈ drawn := (List.mem_append.1 hd).resolve_right fun hlast ↦ by
        obtain rfl := List.mem_singleton.1 hlast
        rw [draws.id_eq] at hlt
        rcases List.mem_append.1 hd' with hd' | hd'
        · exact Nat.lt_asymm hlt (before.id_lt_nextId hd')
        · rw [List.mem_singleton.1 hd', draws.id_eq] at hlt
          exact Nat.lt_irrefl _ hlt
      rcases List.mem_append.1 hf with hearlier | hlast
      · rcases List.mem_append.1 hd' with hd' | hd'
        · exact ih d hfirst d' hd' f hearlier hworker hlt htake haccepted hclose
        · obtain rfl := List.mem_singleton.1 hd'
          cases draws with
          | @take now c consumer item found stamping =>
            obtain ⟨a, rfl⟩ := Option.isSome_iff_exists.1 haccepted
            exact before.id_lt_of_isLate c consumer found ⟨a, stamping⟩ d hfirst hworker f hearlier
              hclose
          | _ => cases htake
      · rw [List.mem_singleton.1 hlast, draws.id_eq]
        exact before.id_lt_nextId hfirst

end State

/-! ### Chronology -/

/-- What the numbers in the journal tell about the order in which things were done. -/
structure Chronology (s : State) : Prop where
  /-- An item is numbered as taken after the items that its producer has put before it are numbered
  as put. -/
  earlier : ∀ e ∈ s.journal.entries, ∀ d ∈ s.journal.entries, ∀ p m n, e.operation = .enqueue →
    e.item = some (itemName p m) → d.operation = .dequeue → d.item = some (itemName p n) →
      m < n → e.id < d.id
  /-- Items are numbered as put before the closing is numbered. -/
  put : ∀ e ∈ s.journal.entries, ∀ f ∈ s.journal.entries, e.operation = .enqueue →
    f.operation = .close → e.id < f.id
  /-- The items that a consumer has taken are numbered before the closing, but for the last. -/
  taken : ∀ d ∈ s.journal.entries, ∀ d' ∈ s.journal.entries, ∀ f ∈ s.journal.entries,
    d.worker = d'.worker → d.id < d'.id → d'.operation = .dequeue → d'.accepted = true →
      f.operation = .close → d.id < f.id

namespace State

/-- **The numbers tell the order of puts and takes but for one item of each worker.** However the
steps of a demonstration are interleaved, an item that is taken can be overtaken only by its own
event of being put; and only the last item of a consumer can be overtaken by the closing. -/
theorem chronology {plan : Plan} {s : State} (h : Reachable plan s) : Chronology s := by
  obtain ⟨first, drawn, hhistory⟩ := exists_history h
  refine ⟨?_, ?_, ?_⟩
  · intro e he d hd p m n hput hm htake hn hlt
    refine hhistory.id_lt_of_pairwise hhistory.pairwise_taken (hhistory.mem_of_mem_journal he)
      (hhistory.mem_of_mem_journal hd) ?_ ?_
    · rintro rfl
      simp [hput] at htake
    · exact fun hnot ↦ Nat.not_le_of_lt hlt (hnot p m n htake hn hput hm)
  · intro e he f hf hput hclose
    refine hhistory.id_lt_of_pairwise hhistory.pairwise_put (hhistory.mem_of_mem_journal he)
      (hhistory.mem_of_mem_journal hf) ?_ ?_
    · rintro rfl
      simp [hput] at hclose
    · exact fun hnot ↦ hnot hclose hput
  · intro d hd d' hd' f hf
    exact hhistory.id_lt_of_taken d (hhistory.mem_of_mem_journal hd) d'
      (hhistory.mem_of_mem_journal hd') f (hhistory.mem_of_mem_journal hf)

/-- Steps in which the consumer numbers the first item before the producer does, and the second
after the coordinator has numbered the closing. -/
def overtaking : List Action :=
  List.flatten [.replicate 4 .coordinator, [.producer 0 0], .replicate 3 (.consumer 0),
    .replicate 6 (.producer 0 0), .replicate 2 .coordinator, [.consumer 0],
    .replicate 4 .coordinator, .replicate 5 (.consumer 0), .replicate 2 .coordinator]

theorem chronology_overtaking : ∃ s, Reachable ⟨1, 1, 2⟩ s ∧ s.isFinished = true ∧
    s.journal.entries.map (fun e ↦ (e.operation, e.accepted)) = [(.dequeue, true),
      (.enqueue, true), (.enqueue, true), (.close, true), (.dequeue, true), (.dequeue, false)] ∧
    Chronology s := by
  have hsteps : (overtaking.foldlM (next? ⟨1, 1, 2⟩) (initial ⟨1, 1, 2⟩ 1 0)).map (fun s ↦
      (s.isFinished, s.journal.entries.map fun e ↦ (e.operation, e.accepted))) =
        some (true, [(.dequeue, true), (.enqueue, true), (.enqueue, true), (.close, true),
          (.dequeue, true), (.dequeue, false)]) := by
    decide +kernel
  obtain ⟨s, hreach, hview⟩ := Reachable.exists_of_foldlM hsteps
  obtain ⟨hfinished, hentries⟩ := Prod.mk.inj hview
  exact ⟨s, hreach, hfinished, hentries, chronology hreach⟩

/-- **The numbers do not tell the order of puts and takes.** An item can be numbered as taken before
it is numbered as put, and after the closing is numbered. -/
theorem not_ordered : ∃ s, Reachable ⟨1, 1, 2⟩ s ∧ s.isFinished = true ∧
    (¬ ∀ d ∈ s.journal.entries, d.operation = .dequeue → d.accepted = true →
      ∀ e ∈ s.journal.entries, e.operation = .enqueue → e.item = d.item → e.id < d.id) ∧
    ¬ ∀ d ∈ s.journal.entries, d.operation = .dequeue → d.accepted = true →
      ∀ f ∈ s.journal.entries, f.operation = .close → d.id < f.id := by
  have hsteps : (overtaking.foldlM (next? ⟨1, 1, 2⟩) (initial ⟨1, 1, 2⟩ 1 0)).map (fun s ↦
      decide (s.isFinished = true ∧
        (¬ ∀ d ∈ s.journal.entries, d.operation = .dequeue → d.accepted = true →
          ∀ e ∈ s.journal.entries, e.operation = .enqueue → e.item = d.item → e.id < d.id) ∧
        ¬ ∀ d ∈ s.journal.entries, d.operation = .dequeue → d.accepted = true →
          ∀ f ∈ s.journal.entries, f.operation = .close → d.id < f.id)) = some true := by
    decide +kernel
  obtain ⟨s, hreach, hview⟩ := Reachable.exists_of_foldlM hsteps
  exact ⟨s, hreach, of_decide_eq_true hview⟩

end State

end QueueJournal.Demo
