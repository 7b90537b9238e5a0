import Mathlib.Data.List.Sort
import Mathlib.Data.Set.List
import QueueJournal.Proofs.Demo.Chronology

/-!
# The items of each producer stay in their order

A producer records its items one after the other, and every consumer takes what it takes of them in
that order, whoever is preempted between a call and its record (`State.keepsOrder`).

The argument follows the lane of a consumer: the items that it has recorded, the one that it holds,
and those in the queue. An item enters all lanes at the end, with a number greater than those of its
producer that are there. Afterwards it only moves towards the front of one lane, and leaves the
others (`Orderly.lane_of_step`). So each lane has the items of each producer in increasing order.
-/

namespace QueueJournal.Demo

/-- An item that is one of the producer's. -/
def IsItemOf (p : Nat) (item : String) : Prop :=
  ∃ n, item = itemName p n

/-- The number of an item is what stands behind the name of its producer. -/
instance (p : Nat) (item : String) : Decidable (IsItemOf p item) :=
  let start := ((producerName p).toList ++ "-item ".toList).length
  decidable_of_iff (item = itemName p (Text.decimalValue (item.toList.drop start))) <| by
    refine ⟨fun h ↦ ⟨_, h⟩, ?_⟩
    rintro ⟨n, rfl⟩
    have hname : (itemName p n).toList =
        ((producerName p).toList ++ "-item ".toList) ++ Text.decimal n := by
      rw [itemName, String.toList_append, String.toList_ofList, List.append_assoc]
    rw [hname, List.drop_left, Text.decimalValue_decimal]

/-- If both items are of one producer, the first has the smaller number. -/
def Precedes (a b : String) : Prop :=
  ∀ p m n, a = itemName p m → b = itemName p n → m < n

/-- The item that a consumer has been given and has not recorded. -/
def Consumer.carried (consumer : Consumer) : Option String :=
  match consumer.stage with
  | .stamping item => item
  | .filing event => event.item
  | _ => none

theorem Producer.Sound.done_le {plan : Plan} {p : Nat} {producer : Producer}
    (h : producer.Sound plan p) : producer.done ≤ plan.items := by
  cases h with
  | unborn => exact Nat.zero_le _
  | ready hdone => exact hdone
  | stamping hdone => exact Nat.le_of_lt hdone
  | filing hdone => exact Nat.le_of_lt hdone
  | finished => exact Nat.le_refl _

theorem Consumer.mem_held {consumer : Consumer} {item : String} :
    item ∈ consumer.held ↔ consumer.carried = some item := by
  rw [held, carried]
  cases consumer.stage <;> simp [Option.mem_toList]

namespace State

variable {plan : Plan} {s s' : State} {action : Action} {item : String} {e : Event String}

/-! ### Lanes -/

/-- The items that a consumer has recorded, the one that it holds, and those in the queue. -/
def lane (s : State) (c : Nat) : List String :=
  (s.journal.entriesOf (consumerName c)).filterMap Event.item ++
    ((s.consumers[c]?.bind Consumer.carried).toList ++ s.monitor.queue.items)

/-- The items of the events that are added under a name come behind those that are there. -/
theorem filterMap_entriesOf {more : List (Event String)}
    (entries : s'.journal.entries = s.journal.entries ++ more) (name : String) :
    (s'.journal.entriesOf name).filterMap Event.item =
      (s.journal.entriesOf name).filterMap Event.item ++
        (more.filter (·.worker == name)).filterMap Event.item := by
  rw [Journal.entriesOf, entries, List.filter_append, List.filterMap_append]
  rfl

/-- Somebody other than a consumer files an event. -/
theorem lane_of_file {w : Worker} {e : Event String} (records : w.Records e)
    (other : ∀ c, w ≠ .consumer c) (consumers : s'.consumers = s.consumers)
    (journal : s'.journal = s.journal.record e)
    (items : s'.monitor.queue.items = s.monitor.queue.items) (c : Nat) :
    (s'.lane c).Sublist (s.lane c) := by
  have hnone : [e].filter (·.worker == consumerName c) = [] := by
    rw [show consumerName c = (Worker.consumer c).name from rfl, records.filter_singleton,
      if_neg (other c).symm]
  have entries : s'.journal.entries = s.journal.entries ++ [e] := by rw [journal]; rfl
  rw [lane, lane, filterMap_entriesOf entries, hnone, consumers, items, List.filterMap_nil,
    List.append_nil]

/-- A consumer goes on. What it records, holds then, and leaves in the queue is what it held and
what was in the queue. -/
theorem lane_moveConsumer {c : Nat} {old new : Consumer} {more : List (Event String)}
    (found : s.consumers[c]? = some old) (consumers : s'.consumers = s.consumers.set c new)
    (entries : s'.journal.entries = s.journal.entries ++ more)
    (own : ∀ e ∈ more, e.worker = consumerName c)
    (items : s'.monitor.queue.items.Sublist s.monitor.queue.items)
    (moved : more.filterMap Event.item ++ (new.carried.toList ++ s'.monitor.queue.items) =
      old.carried.toList ++ s.monitor.queue.items) (d : Nat) :
    (s'.lane d).Sublist (s.lane d) := by
  have hlt := (List.getElem?_eq_some_iff.1 found).1
  rw [lane, lane, filterMap_entriesOf entries, consumers]
  rcases eq_or_ne d c with rfl | hne
  · have hall : more.filter (·.worker == consumerName d) = more :=
      List.filter_eq_self.2 fun e he ↦ by simpa using own e he
    rw [hall, List.getElem?_set_self hlt, found, Option.bind_some, Option.bind_some,
      List.append_assoc, moved]
  · have hname : consumerName c ≠ consumerName d := fun h ↦ by
      have hworker : Worker.consumer c = .consumer d := Worker.name_inj h
      exact hne (Worker.consumer.inj hworker).symm
    have hnone : more.filter (·.worker == consumerName d) = [] :=
      List.filter_eq_nil_iff.2 fun e he ↦ by simpa [own e he] using hname
    rw [hnone, List.filterMap_nil, List.append_nil, List.getElem?_set_ne hne.symm]
    exact ((List.Sublist.refl _).append items).append_left _

/-- An item that is given goes from the queue to the consumer. -/
theorem toList_append_given {q q' : Queue String} {item : Option String}
    (effect : Queue.Effect q .dequeue (.item item) q') (ready : q.mustWait = false) :
    item.toList ++ q'.items = q.items := by
  rcases effect.of_ready ready with ⟨a, items, -, head, rfl, rfl⟩ | ⟨-, rfl, rfl⟩
  · exact head.symm
  · rfl

/-- What stands under the name of a worker is its own. -/
theorem records_of_mem (h : Reachable plan s) {w : Worker}
    (he : e ∈ s.journal.entriesOf w.name) : w.Records e := by
  obtain ⟨hentry, hworker⟩ := List.mem_filter.1 he
  obtain ⟨first, drawn, hhistory⟩ := exists_history h
  obtain ⟨w', records⟩ := hhistory.exists_records (hhistory.mem_of_mem_journal hentry)
  obtain rfl := Worker.name_inj (records.worker_eq.symm.trans (beq_iff_eq.1 hworker))
  exact records

/-- The items of a lane have been put. -/
theorem mem_put_of_lane (h : Reachable plan s) {c : Nat} (hitem : item ∈ s.lane c) :
    item ∈ s.put := by
  rcases List.mem_append.1 hitem with hrecorded | hitem
  · obtain ⟨e, he, heitem⟩ := List.mem_filterMap.1 hrecorded
    cases records_of_mem h (w := .consumer c) he with
    | take _ given stamp =>
      obtain rfl : given = some item := heitem
      exact mem_put_of_journal h (List.mem_filter.1 he).1 rfl
  · rcases List.mem_append.1 hitem with hcarried | hqueued
    · obtain ⟨consumer, found, hcarried⟩ :=
        Option.bind_eq_some_iff.1 (Option.mem_toList.1 hcarried)
      exact mem_put_of_held h found (Consumer.mem_held.2 hcarried)
    · obtain ⟨taken, hbalanced⟩ := exists_balanced h
      rw [hbalanced.items, Multiset.mem_add, Multiset.mem_add]
      exact .inl (.inl hqueued)

/-- **A step takes an item forward in one lane, or puts one at the end of all.** -/
theorem Orderly.lane_of_step (h : s.Orderly plan) (hstep : s.Step plan action s') :
    (∀ c, (s'.lane c).Sublist (s.lane c)) ∨
      ∃ (p : Nat) (producer : Producer), s.producers[p]? = some producer ∧
        producer.stage = .ready ∧
        ∀ c, s'.lane c = s.lane c ++ [itemName p (producer.done + 1)] := by
  have hstill : s'.consumers = s.consumers → s'.journal = s.journal →
      s'.monitor.queue.items = s.monitor.queue.items → ∀ c, (s'.lane c).Sublist (s.lane c) := by
    intro consumers journal items c
    rw [lane, lane, consumers, journal, items]
  cases hstep.move with
  | hireConsumer stage found =>
    have hunborn := h.consumer_unborn stage found
    refine .inl (lane_moveConsumer found rfl (List.append_nil _).symm (by simp) (.refl _) ?_)
    simp [Consumer.carried, hunborn]
  | consumersHired => exact .inl (hstill rfl rfl rfl)
  | hireProducer => exact .inl (hstill rfl rfl rfl)
  | producersHired => exact .inl (hstill rfl rfl rfl)
  | countProducer => exact .inl (hstill rfl rfl rfl)
  | producersEnded => exact .inl (hstill rfl rfl rfl)
  | pollInVain => exact .inl (hstill rfl rfl rfl)
  | pollEmpty => exact .inl (hstill rfl rfl rfl)
  | stampClosing => exact .inl (hstill rfl rfl rfl)
  | @close now event discarded monitor stage acts =>
    have hends := Monitor.act_ends (acts 0)
    have hopen : s.monitor.queue.closed = false := by simp [h.closed, stage]
    obtain ⟨-, hqueue⟩ := hends.effect.of_close hopen
    refine .inl (hstill rfl rfl ?_)
    rw [h.emptied (by simp [stage])]
    exact congrArg Queue.items hqueue
  | @fileClosing now event stage =>
    obtain ⟨stamp, rfl⟩ : ∃ stamp, event = .close stamp coordinatorName := by
      simpa [stage] using h.coordinator
    exact .inl (lane_of_file (.close stamp) (by simp) rfl rfl rfl)
  | countConsumer => exact .inl (hstill rfl rfl rfl)
  | consumersEnded => exact .inl (hstill rfl rfl rfl)
  | @put now p pick producer index monitor found ready more acts =>
    obtain ⟨-, hitems⟩ := (Monitor.act_ends (acts 0)).effect.of_accepted
    refine .inr ⟨p, producer, found, ready, fun c ↦ ?_⟩
    rw [lane, lane, hitems, List.append_assoc, List.append_assoc]
  | putInVain found ready more acts => exact absurd (acts 0) (h.not_refused found (by simp [ready]))
  | endProducer => exact .inl (hstill rfl rfl rfl)
  | stampPut => exact .inl (hstill rfl rfl rfl)
  | @filePut now p pick producer event found filing =>
    have hsound := (h.producer p producer found).sound
    cases hsound with
    | filing =>
      cases filing
      exact .inl (lane_of_file (.put ..) (by simp) rfl rfl rfl)
    | _ => cases filing
  | @sleep now c consumer monitor found asking acts =>
    obtain ⟨-, -, rfl⟩ := Monitor.act_sleeps acts
    refine .inl (lane_moveConsumer found rfl (List.append_nil _).symm (by simp) (.refl _) ?_)
    simp [Consumer.carried, asking]
  | @take now c consumer item monitor found asking acts =>
    have hends := Monitor.act_ends acts
    have hgiven := toList_append_given hends.effect (hends.ready rfl)
    refine .inl (lane_moveConsumer found rfl (List.append_nil _).symm (by simp) ?_ ?_)
    · exact hgiven ▸ List.sublist_append_right ..
    · simpa [Consumer.carried, asking] using hgiven
  | @sleepAgain now c consumer monitor found waiting signalled retakes =>
    obtain ⟨-, -, rfl⟩ := Monitor.retake_sleeps retakes
    refine .inl (lane_moveConsumer found rfl (List.append_nil _).symm (by simp) (.refl _) ?_)
    simp [Consumer.carried, waiting]
  | @takeLate now c consumer item monitor found waiting signalled retakes =>
    have hends := Monitor.retake_ends retakes
    have hgiven := toList_append_given hends.effect (h.ready_of_retake retakes)
    refine .inl (lane_moveConsumer found rfl (List.append_nil _).symm (by simp) ?_ ?_)
    · exact hgiven ▸ List.sublist_append_right ..
    · simpa [Consumer.carried, waiting] using hgiven
  | @stampTake now c consumer item found stamping =>
    refine .inl (lane_moveConsumer found rfl (List.append_nil _).symm (by simp) (.refl _) ?_)
    simp [Consumer.carried, stamping, Event.dequeue]
  | @fileTake now c consumer event found filing accepted =>
    have hsound := (h.consumer c consumer found).sound
    cases hsound with
    | @filing count stamp item =>
      cases filing
      refine .inl (lane_moveConsumer found rfl rfl (by simp [Event.dequeue]) (.refl _) ?_)
      cases item <;> rfl
    | _ => cases filing
  | @endConsumer now c consumer event found filing refused =>
    have hsound := (h.consumer c consumer found).sound
    cases hsound with
    | @filing count stamp item =>
      cases filing
      refine .inl (lane_moveConsumer found rfl rfl (by simp [Event.dequeue]) (.refl _) ?_)
      cases item <;> rfl
    | _ => cases filing
  | @stir now c parked =>
    refine .inl (hstill rfl rfl ?_)
    rw [Monitor.wake_eq parked]

/-- **Every lane has the items of each producer in increasing order.** -/
theorem pairwise_lane (h : Reachable plan s) (c : Nat) : (s.lane c).Pairwise Precedes := by
  induction h with
  | initial firstId now =>
    have hnone : (State.initial plan firstId now).consumers[c]?.bind Consumer.carried = none := by
      refine Option.bind_eq_none_iff.2 fun consumer found ↦ ?_
      rw [List.eq_of_mem_replicate (List.mem_of_getElem? found)]
      rfl
    rw [lane, hnone]
    exact .nil
  | @step s s' action hreach hstep ih =>
    have horder := orderly_of_reachable hreach
    rcases horder.lane_of_step hstep with hforward | ⟨p, producer, found, ready, hput⟩
    · exact ih.sublist (hforward c)
    · rw [hput c]
      refine List.pairwise_append.2 ⟨ih, List.pairwise_singleton _ _, ?_⟩
      intro a ha b hb q m n hm hn
      obtain rfl := List.mem_singleton.1 hb
      obtain ⟨rfl, rfl⟩ := itemName_inj hn
      -- What is in the lane has been put, and its producer counts what it has put.
      have hle := le_accepted_of_mem_put found (hm ▸ mem_put_of_lane hreach ha)
      have hsound := (horder.producer p producer found).sound
      cases hsound with
      | ready => exact Nat.lt_succ_of_le hle
      | _ => cases ready

/-! ### What is recorded -/

/-- A producer has recorded its first items, one after the other. -/
theorem gists_entriesOf (h : Reachable plan s) {p : Nat} {producer : Producer}
    (found : s.producers[p]? = some producer) :
    (s.journal.entriesOf (producerName p)).map Event.gist =
      (List.range' 1 producer.done).map fun n ↦ .put (itemName p n) := by
  have hgist : (s.journal.entriesOf (producerName p)).map Event.gist =
      (s.journal.entriesOf (Worker.producer p).name).map Event.sketch :=
    List.map_congr_left fun e he ↦ by cases records_of_mem h (w := .producer p) he; rfl
  obtain ⟨first, drawn, hhistory⟩ := exists_history h
  have hsketches := hhistory.sketches (.producer p)
  rw [hhistory.log, desk_producer found, List.map_append, ← hgist, Producer.desk] at hsketches
  rw [List.range'_eq_map_range, List.map_map]
  simp only [Function.comp_def, Nat.add_comm 1]
  cases hstage : producer.stage with
  | filing event =>
    rw [hstage] at hsketches
    exact List.append_cancel_right hsketches
  | _ =>
    rw [hstage] at hsketches
    exact (List.append_nil _).symm.trans hsketches

/-- Those who record that they took something are the consumers of the demonstration. -/
theorem exists_consumer_of_dequeue (h : Reachable plan s) (he : e ∈ s.journal.entries)
    (hop : e.operation = .dequeue) : ∃ c < plan.consumers, e.worker = consumerName c := by
  obtain ⟨first, drawn, hhistory⟩ := exists_history h
  have hdrawn := hhistory.mem_of_mem_journal he
  obtain ⟨w, records⟩ := hhistory.exists_records hdrawn
  have hsketch := hhistory.sketch_mem hdrawn records
  cases records with
  | take c item stamp =>
    refine ⟨c, ?_, rfl⟩
    rw [← (orderly_of_reachable h).length_consumers]
    by_contra hnot
    have hnone : s.consumers[c]? = none := List.getElem?_eq_none_iff.2 (Nat.le_of_not_lt hnot)
    simp [desk, hnone, Desk.clear] at hsketch
  | _ => cases hop

/-- In the end all items, and no others, are recorded as taken. -/
theorem taken_mem_gists_iff (h : Reachable plan s) (hfinished : s.isFinished = true) {p n : Nat} :
    Gist.taken (itemName p n) ∈ s.gists ↔ p < plan.producers ∧ 1 ≤ n ∧ n ≤ plan.items := by
  have hmem : Gist.taken (itemName p n) ∈ s.gists ↔ itemName p n ∈ plan.allItems := by
    simp [gists_of_isFinished h hfinished, Gist.taken, Gist.put, Gist.lacking, Gist.closed,
      Multiset.mem_replicate]
  rw [hmem]
  constructor
  · intro hitem
    obtain ⟨q, hq, hitem⟩ := Multiset.mem_bind.1 hitem
    obtain ⟨k, hk, hname⟩ := Multiset.mem_map.1 hitem
    obtain ⟨rfl, rfl⟩ := itemName_inj hname
    exact ⟨Multiset.mem_range.1 hq, Nat.le_add_left _ _, Multiset.mem_range.1 hk⟩
  · rintro ⟨hp, hpos, hn⟩
    exact Plan.itemName_mem_allItems hp hpos hn

/-- The events that took an item of the producer. -/
def takes (s : State) (p : Nat) : List (Event String) :=
  s.journal.entries.filter fun e ↦ e.operation == .dequeue && e.accepted && e.item.any (IsItemOf p)

theorem mem_takes {p : Nat} : e ∈ s.takes p ↔ e ∈ s.journal.entries ∧ e.operation = .dequeue ∧
    e.accepted = true ∧ ∃ n, e.item = some (itemName p n) := by
  have hitem : e.item.any (IsItemOf p) = true ↔ ∃ n, e.item = some (itemName p n) := by
    cases e.item with
    | none => simp
    | some item => rw [Option.any_some, decide_eq_true_iff, IsItemOf]; simp
  rw [takes, List.mem_filter, Bool.and_eq_true, Bool.and_eq_true, hitem, beq_iff_eq, and_assoc]

/-- In the end the items of a producer that are recorded as taken are all of them. -/
theorem item_mem_takes_iff (h : Reachable plan s) (hfinished : s.isFinished = true) {p n : Nat}
    (hp : p < plan.producers) :
    some (itemName p n) ∈ (s.takes p).map Event.item ↔ 1 ≤ n ∧ n ≤ plan.items := by
  have hgist : some (itemName p n) ∈ (s.takes p).map Event.item ↔
      Gist.taken (itemName p n) ∈ s.gists := by
    rw [gists, Multiset.mem_coe, List.mem_map, List.mem_map]
    constructor
    · rintro ⟨e, he, hitem⟩
      obtain ⟨hentry, hop, haccepted, -⟩ := mem_takes.1 he
      exact ⟨e, hentry, by rw [Event.gist, hop, haccepted, hitem]; rfl⟩
    · rintro ⟨e, he, hgist⟩
      obtain ⟨hop, haccepted, hitem⟩ : e.operation = .dequeue ∧ e.accepted = true ∧
          e.item = some (itemName p n) := by simpa [Event.gist, Gist.taken] using hgist
      exact ⟨e, mem_takes.2 ⟨he, hop, haccepted, n, hitem⟩, hitem⟩
  rw [hgist, taken_mem_gists_iff h hfinished, and_iff_right hp]

/-- A consumer has recorded what it took of a producer's items in increasing order. -/
theorem pairwise_entriesOf (h : Reachable plan s) (c : Nat) :
    (s.journal.entriesOf (consumerName c)).Pairwise fun d e ↦
      ∀ a, d.item = some a → ∀ b, e.item = some b → Precedes a b :=
  List.pairwise_filterMap.1 (List.pairwise_append.1 (pairwise_lane h c)).1

/-- All that was taken has been recorded by the only consumer. -/
theorem takes_eq_filter (h : Reachable plan s) (hone : plan.consumers = 1) (p : Nat) :
    s.takes p = (s.journal.entriesOf (consumerName 0)).filter fun e ↦
      e.operation == .dequeue && e.accepted && e.item.any (IsItemOf p) := by
  rw [takes, Journal.entriesOf, List.filter_filter]
  refine List.filter_congr fun e he ↦ ?_
  by_cases hop : e.operation = .dequeue
  · obtain ⟨c, hc, hworker⟩ := exists_consumer_of_dequeue h he hop
    obtain rfl : c = 0 := by omega
    simp [hworker]
  · simp [hop]

/-- **A single consumer takes all items of a producer in order.** -/
theorem taken_alone (h : Reachable plan s) (hone : plan.consumers = 1)
    (hfinished : s.isFinished = true) {p : Nat} (hp : p < plan.producers) :
    (s.takes p).map Event.item = (List.range' 1 plan.items).map fun n ↦ some (itemName p n) := by
  obtain ⟨numbers, hnumbers⟩ : (s.takes p).map Event.item ∈
      Set.range (List.map fun n ↦ some (itemName p n)) := by
    rw [Set.range_list_map]
    intro item hitem
    obtain ⟨e, he, rfl⟩ := List.mem_map.1 hitem
    obtain ⟨-, -, -, n, hn⟩ := mem_takes.1 he
    exact ⟨n, hn.symm⟩
  have hincreasing : numbers.Pairwise (· < ·) := by
    have hitems : ((s.takes p).map Event.item).Pairwise fun a b ↦
        ∀ m n, a = some (itemName p m) → b = some (itemName p n) → m < n := by
      rw [takes_eq_filter h hone, List.pairwise_map]
      exact ((pairwise_entriesOf h 0).filter _).imp fun hprecedes m n hm hn ↦
        hprecedes _ hm _ hn p m n rfl rfl
    rw [← hnumbers, List.pairwise_map] at hitems
    exact hitems.imp fun hlt ↦ hlt _ _ rfl rfl
  have hmem : ∀ n, n ∈ numbers ↔ n ∈ List.range' 1 plan.items := fun n ↦ by
    have hinj : Function.Injective fun n ↦ some (itemName p n) := fun m n heq ↦
      (itemName_inj (Option.some_inj.1 heq)).2
    rw [← List.mem_map_of_injective hinj, hnumbers, item_mem_takes_iff h hfinished hp,
      List.mem_range'_1]
    omega
  rw [← hnumbers, hincreasing.eq_of_mem_iff List.pairwise_lt_range' hmem]

end State

/-- The items of each producer are in their order wherever they are recorded. -/
structure KeepsOrder (plan : Plan) (s : State) : Prop where
  /-- A producer has recorded its first items, one after the other, and in the end all of them. -/
  put : ∀ p < plan.producers, ∃ m ≤ plan.items, (s.isFinished = true → m = plan.items) ∧
    (s.journal.entriesOf (producerName p)).map Event.gist =
      (List.range' 1 m).map fun n ↦ .put (itemName p n)
  /-- A consumer has recorded what it took of a producer's items in increasing order. -/
  taken : ∀ c p, (s.journal.entriesOf (consumerName c)).Pairwise fun d e ↦ ∀ m n,
    d.operation = .dequeue → d.accepted = true → d.item = some (itemName p m) →
      e.operation = .dequeue → e.accepted = true → e.item = some (itemName p n) → m < n
  /-- A single consumer has recorded in the end that it took all of a producer's items in order. -/
  alone : plan.consumers = 1 → s.isFinished = true → ∀ p < plan.producers,
    (s.takes p).map Event.item = (List.range' 1 plan.items).map fun n ↦ some (itemName p n)

namespace State

/-- **The items of each producer stay in their order.** However the steps of a demonstration are
interleaved, in every state a producer has recorded its first items one after the other, and each
consumer what it took of them in increasing order. In the end a producer has recorded all its items,
and so has the consumer if there is only one. -/
theorem keepsOrder {plan : Plan} {s : State} (h : Reachable plan s) : KeepsOrder plan s := by
  have horder := orderly_of_reachable h
  refine ⟨fun p hp ↦ ?_, fun c p ↦ ?_, fun hone hfinished p hp ↦ ?_⟩
  · obtain ⟨producer, found⟩ : ∃ producer, s.producers[p]? = some producer :=
      ⟨_, List.getElem?_eq_getElem (horder.length_producers ▸ hp)⟩
    refine ⟨producer.done, ?_, fun hfinished ↦ ?_, gists_entriesOf h found⟩
    · exact (horder.producer p producer found).sound.done_le
    · rw [producer_of_isFinished h hfinished found]
  · refine (pairwise_entriesOf h c).imp fun hprecedes m n _ _ hm _ _ hn ↦ ?_
    exact hprecedes _ hm _ hn p m n rfl rfl
  · exact taken_alone h hone hfinished hp

/-- The only consumer takes and records the first items of both producers before either of them has
recorded its own. -/
theorem keepsOrder_overtaken : ∃ s, Reachable ⟨2, 1, 2⟩ s ∧ s.isFinished = true ∧
    s.journal.entries.map Event.item = [some (itemName 1 1), some (itemName 0 1),
      some (itemName 0 1), some (itemName 0 2), some (itemName 1 1), some (itemName 1 2),
      some (itemName 0 2), some (itemName 1 2), none, none] ∧
    KeepsOrder ⟨2, 1, 2⟩ s := by
  let actions : List Action := List.flatten [.replicate 5 .coordinator,
    [.producer 1 0, .producer 0 0], .replicate 6 (.consumer 0), .replicate 6 (.producer 0 0),
    .replicate 6 (.producer 1 0), .replicate 6 (.consumer 0), .replicate 6 .coordinator,
    .replicate 3 (.consumer 0), .replicate 3 .coordinator]
  have hsteps : (actions.foldlM (next? ⟨2, 1, 2⟩) (initial ⟨2, 1, 2⟩ 1 0)).map (fun s ↦
      (s.isFinished, s.journal.entries.map Event.item)) = some (true, [some (itemName 1 1),
        some (itemName 0 1), some (itemName 0 1), some (itemName 0 2), some (itemName 1 1),
        some (itemName 1 2), some (itemName 0 2), some (itemName 1 2), none, none]) := by
    decide +kernel
  obtain ⟨s, hreach, hview⟩ := Reachable.exists_of_foldlM hsteps
  obtain ⟨hfinished, hentries⟩ := Prod.mk.inj hview
  exact ⟨s, hreach, hfinished, hentries, keepsOrder hreach⟩

end State

end QueueJournal.Demo
