import Mathlib.Data.Multiset.Bind
import QueueJournal.Proofs.Demo.Account

/-!
# Everything is delivered exactly once

However the steps of a demonstration are interleaved, when it is over every item has been put once
and taken once, the close has discarded nothing, and the journal says so (`State.delivers`).

The account of the demonstration is read at its end: the queue is empty and stays so from the moment
at which the coordinator has seen it empty, and no consumer holds an item once all have ended. That
the report agrees is an invariant of its own, since the coordinator adds the workers up one by one
while others still work (`State.Reported`).
-/

namespace QueueJournal

/-- How many items were discarded, if a queue was closed. -/
def Notice.discarded? : Notice → Option Nat
  | queueClosed discarded => some discarded
  | _ => none

namespace Demo

/-! ### The names of the items -/

theorem toList_producerName (p : Nat) :
    (producerName p).toList = "producer-".toList ++ Text.decimal p :=
  String.toList_ofList

theorem toList_itemName (p n : Nat) : (itemName p n).toList =
    "producer-".toList ++ (Text.decimal p ++ '-' :: ("item ".toList ++ Text.decimal n)) := by
  have hdash : "-item ".toList = '-' :: "item ".toList := by decide
  rw [itemName, String.toList_append, String.toList_ofList, toList_producerName, hdash]
  exact List.append_assoc ..

/-- **No two items have the same name.** -/
theorem itemName_inj {p p' n n' : Nat} (h : itemName p n = itemName p' n') : p = p' ∧ n = n' := by
  have htext : Text.decimal p ++ '-' :: ("item ".toList ++ Text.decimal n) =
      Text.decimal p' ++ '-' :: ("item ".toList ++ Text.decimal n') := by
    rw [← List.append_right_inj "producer-".toList, ← toList_itemName, ← toList_itemName, h]
  -- The numeral of the producer ends where the digits end.
  have hnumeral : ∀ (q : Nat) (rest : List Char),
      (Text.decimal q ++ '-' :: rest).takeWhile Char.isDigit = Text.decimal q := fun q rest ↦ by
    rw [List.takeWhile_append_of_pos fun c hc ↦ Text.isDigit_of_mem_decimal hc]
    simp
  have hproducer : Text.decimal p = Text.decimal p' := by
    rw [← hnumeral p, htext, hnumeral]
  rw [hproducer] at htext
  have hitem := List.append_cancel_left (List.cons.inj (List.append_cancel_left htext)).2
  exact ⟨Text.decimal_injective hproducer, Text.decimal_injective hitem⟩

/-- All items of a demonstration. -/
def Plan.allItems (plan : Plan) : Multiset String :=
  (Multiset.range plan.producers).bind fun p ↦ firstItems p plan.items

namespace Plan

variable {plan : Plan}

theorem card_allItems : plan.allItems.card = plan.producers * plan.items := by
  simp [allItems, firstItems]

theorem itemName_mem_allItems {p n : Nat} (hp : p < plan.producers) (hpos : 1 ≤ n)
    (hn : n ≤ plan.items) : itemName p n ∈ plan.allItems := by
  refine Multiset.mem_bind.2 ⟨p, Multiset.mem_range.2 hp, Multiset.mem_map.2 ⟨n - 1, ?_, ?_⟩⟩
  · exact Multiset.mem_range.2 (by omega)
  · rw [Nat.sub_add_cancel hpos]

theorem nodup_allItems : plan.allItems.Nodup := by
  refine Multiset.nodup_bind.2 ⟨fun p _ ↦ ?_, ?_⟩
  · exact (Multiset.nodup_range _).map fun n n' h ↦ Nat.succ.inj (itemName_inj h).2
  · refine (Multiset.nodup_range _).pairwise fun p _ p' _ hne ↦ ?_
    show Disjoint (firstItems p plan.items) (firstItems p' plan.items)
    rw [Multiset.disjoint_left]
    intro item hitem hitem'
    obtain ⟨n, -, rfl⟩ := Multiset.mem_map.1 hitem
    obtain ⟨n', -, h⟩ := Multiset.mem_map.1 hitem'
    exact hne (itemName_inj h).1.symm

theorem countP_allItems {p n : Nat} (hp : p < plan.producers) (hpos : 1 ≤ n)
    (hn : n ≤ plan.items) : plan.allItems.countP (· = itemName p n) = 1 := by
  rw [← Multiset.count_eq_one_of_mem nodup_allItems (itemName_mem_allItems hp hpos hn)]
  exact Multiset.countP_congr rfl fun item _ ↦ propext eq_comm

end Plan

/-! ### The report -/

namespace CoordinatorStage

/-- The producers that the coordinator has seen end. -/
def seenProducers (producers : List Producer) : CoordinatorStage → List Producer
  | hiringConsumers _ => []
  | hiringProducers _ => []
  | awaitingProducers ended => producers.take ended
  | _ => producers

/-- The consumers that the coordinator has seen end. -/
def seenConsumers (consumers : List Consumer) : CoordinatorStage → List Consumer
  | awaitingConsumers ended => consumers.take ended
  | finished => consumers
  | _ => []

variable {stage : CoordinatorStage}

/-- A producer that has not been seen makes no difference. -/
theorem seenProducers_set {producers : List Producer} {p : Nat} (h : ¬ stage.HasSeenProducer p)
    (producer : Producer) :
    stage.seenProducers (producers.set p producer) = stage.seenProducers producers := by
  cases stage with
  | hiringConsumers => rfl
  | hiringProducers => rfl
  | awaitingProducers ended => exact List.take_set_of_le (Nat.le_of_not_lt h)
  | _ => exact absurd trivial h

/-- A consumer that has not been seen makes no difference. -/
theorem seenConsumers_set {consumers : List Consumer} {c : Nat} (h : ¬ stage.HasSeenConsumer c)
    (consumer : Consumer) :
    stage.seenConsumers (consumers.set c consumer) = stage.seenConsumers consumers := by
  cases stage with
  | awaitingConsumers ended => exact List.take_set_of_le (Nat.le_of_not_lt h)
  | finished => exact absurd trivial h
  | _ => rfl

end CoordinatorStage

/-- What a report says of workers that have ended. -/
def Report.ofSeen (producers : List Producer) (consumers : List Consumer) : Report where
  produced := (producers.map Producer.accepted).sum
  rejected := (producers.map Producer.refused).sum
  consumed := (consumers.map Consumer.consumed).sum

namespace State

variable {plan : Plan} {s s' : State} {action : Action}

/-- The report and the notices agree with what has happened. -/
structure Reported (s : State) : Prop where
  /-- The report is about the workers that have been seen to end. -/
  report : s.report = .ofSeen (s.coordinator.seenProducers s.producers)
    (s.coordinator.seenConsumers s.consumers)
  /-- Nothing is discarded when the queue is closed. -/
  discarded : s.notices.filterMap Notice.discarded? = if s.coordinator.hasClosed then [0] else []

namespace Reported

/-- The coordinator sees nobody end, and does not close the queue. -/
theorem keep (h : s.Reported) (report : s'.report = s.report)
    (producers : s'.coordinator.seenProducers s'.producers =
      s.coordinator.seenProducers s.producers)
    (consumers : s'.coordinator.seenConsumers s'.consumers =
      s.coordinator.seenConsumers s.consumers)
    (discarded : s'.notices.filterMap Notice.discarded? =
      s.notices.filterMap Notice.discarded?)
    (closed : s'.coordinator.hasClosed = s.coordinator.hasClosed) : s'.Reported :=
  ⟨by rw [report, producers, consumers, h.report], by rw [discarded, closed, h.discarded]⟩

/-- A producer goes on that has not ended. -/
theorem moveProducer (h : s.Reported) (horder : s.Orderly plan) {p : Nat} {old new : Producer}
    (found : s.producers[p]? = some old) (live : old.stage ≠ .finished)
    (producers : s'.producers = s.producers.set p new) (consumers : s'.consumers = s.consumers)
    (coordinator : s'.coordinator = s.coordinator) (report : s'.report = s.report)
    (discarded : s'.notices.filterMap Notice.discarded? =
      s.notices.filterMap Notice.discarded?) : s'.Reported := by
  refine h.keep report ?_ (by rw [consumers, coordinator]) discarded (by rw [coordinator])
  rw [producers, coordinator]
  exact CoordinatorStage.seenProducers_set (horder.not_hasSeenProducer found live) new

/-- A consumer goes on that has not ended. -/
theorem moveConsumer (h : s.Reported) (horder : s.Orderly plan) {c : Nat} {old new : Consumer}
    (found : s.consumers[c]? = some old) (live : old.stage ≠ .finished)
    (consumers : s'.consumers = s.consumers.set c new) (producers : s'.producers = s.producers)
    (coordinator : s'.coordinator = s.coordinator) (report : s'.report = s.report)
    (discarded : s'.notices.filterMap Notice.discarded? =
      s.notices.filterMap Notice.discarded?) : s'.Reported := by
  refine h.keep report (by rw [producers, coordinator]) ?_ discarded (by rw [coordinator])
  rw [consumers, coordinator]
  exact CoordinatorStage.seenConsumers_set
    (fun hseen ↦ live ((horder.consumer c old found).seen hseen)) new

theorem step (h : s.Reported) (horder : s.Orderly plan) (hstep : s.Step plan action s') :
    s'.Reported := by
  cases hstep.move with
  | hireConsumer stage =>
    exact h.keep rfl (by rw [stage]; rfl) (by rw [stage]; rfl) rfl (by rw [stage]; rfl)
  | consumersHired stage =>
    exact h.keep rfl (by rw [stage]; rfl) (by rw [stage]; rfl) rfl (by rw [stage]; rfl)
  | hireProducer stage =>
    exact h.keep rfl (by rw [stage]; rfl) (by rw [stage]; rfl) rfl (by rw [stage]; rfl)
  | producersHired stage =>
    exact h.keep rfl (by rw [stage]; rfl) (by rw [stage]; rfl) rfl (by rw [stage]; rfl)
  | @countProducer now ended producer stage found finished =>
    refine ⟨?_, by simpa [stage] using h.discarded⟩
    have hreport := h.report
    rw [stage] at hreport
    simp [Report.ofSeen, CoordinatorStage.seenProducers, CoordinatorStage.seenConsumers,
      List.take_add_one, found, hreport]
  | @producersEnded now ended stage noneLeft =>
    have hall := List.take_of_length_le (List.getElem?_eq_none_iff.1 noneLeft)
    refine h.keep rfl ?_ (by rw [stage]; rfl) rfl (by rw [stage]; rfl)
    rw [stage]
    exact hall.symm
  | pollInVain stage => exact h.keep rfl rfl rfl rfl rfl
  | pollEmpty stage =>
    exact h.keep rfl (by rw [stage]; rfl) (by rw [stage]; rfl) rfl (by rw [stage]; rfl)
  | stampClosing stage =>
    exact h.keep rfl (by rw [stage]; rfl) (by rw [stage]; rfl) rfl (by rw [stage]; rfl)
  | @close now event discarded monitor stage acts =>
    -- The coordinator has seen the queue empty, so it holds nothing when it is closed.
    have hends := Monitor.act_ends (acts 0)
    have hempty : s.monitor.queue.items = [] := horder.emptied (by simp [stage])
    have hopen : s.monitor.queue.closed = false := by simp [horder.closed, stage]
    have hdiscarded : discarded = some 0 := by
      rw [(hends.effect.of_close hopen).1, hempty, List.length_nil]
    refine ⟨?_, ?_⟩
    · have hreport := h.report
      rw [stage] at hreport
      exact hreport
    · have hbefore := h.discarded
      rw [stage] at hbefore
      simpa [hdiscarded, Notice.discarded?] using hbefore
  | fileClosing stage =>
    exact h.keep rfl (by rw [stage]; rfl) (by rw [stage]; rfl) rfl (by rw [stage]; rfl)
  | @countConsumer now ended consumer stage found finished =>
    refine ⟨?_, by simpa [stage] using h.discarded⟩
    have hreport := h.report
    rw [stage] at hreport
    simp [Report.ofSeen, CoordinatorStage.seenProducers, CoordinatorStage.seenConsumers,
      List.take_add_one, found, hreport]
  | @consumersEnded now ended stage noneLeft =>
    have hall := List.take_of_length_le (List.getElem?_eq_none_iff.1 noneLeft)
    refine h.keep rfl (by rw [stage]; rfl) ?_ (by simp [Notice.discarded?]) (by rw [stage]; rfl)
    rw [stage]
    exact hall.symm
  | put found ready =>
    apply h.moveProducer horder found (by simp [ready]) <;> rfl
  | putInVain found ready =>
    apply h.moveProducer horder found (by simp [ready])
    case discarded => simp [Notice.discarded?]
    all_goals rfl
  | endProducer found ready =>
    apply h.moveProducer horder found (by simp [ready])
    case discarded => simp [Notice.discarded?]
    all_goals rfl
  | stampPut found stamping =>
    apply h.moveProducer horder found (by simp [stamping]) <;> rfl
  | filePut found filing =>
    apply h.moveProducer horder found (by simp [filing]) <;> rfl
  | sleep found asking =>
    apply h.moveConsumer horder found (by simp [asking]) <;> rfl
  | take found asking =>
    apply h.moveConsumer horder found (by simp [asking]) <;> rfl
  | sleepAgain found waiting =>
    apply h.moveConsumer horder found (by simp [waiting]) <;> rfl
  | takeLate found waiting =>
    apply h.moveConsumer horder found (by simp [waiting]) <;> rfl
  | stampTake found stamping =>
    apply h.moveConsumer horder found (by simp [stamping]) <;> rfl
  | fileTake found filing =>
    apply h.moveConsumer horder found (by simp [filing]) <;> rfl
  | endConsumer found filing =>
    apply h.moveConsumer horder found (by simp [filing])
    case discarded => simp [Notice.discarded?]
    all_goals rfl
  | stir => exact h.keep rfl rfl rfl rfl rfl

end Reported

theorem reported_of_reachable (h : Reachable plan s) : s.Reported := by
  induction h with
  | initial firstId now => exact ⟨rfl, rfl⟩
  | step hreach hstep ih => exact ih.step (orderly_of_reachable hreach) hstep

/-! ### The account at the end -/

theorem coordinator_of_isFinished (hfinished : s.isFinished = true) :
    s.coordinator = .finished := by
  unfold isFinished at hfinished
  split at hfinished
  · assumption
  · cases hfinished

/-- A producer that the coordinator has seen end has put all its items, and none was refused. -/
theorem producer_of_isFinished (h : Reachable plan s) (hfinished : s.isFinished = true) {p : Nat}
    {producer : Producer} (found : s.producers[p]? = some producer) :
    producer = ⟨.finished, plan.items, plan.items, 0⟩ := by
  have hfits := (orderly_of_reachable h).producer p producer found
  have hended := hfits.seen (by rw [coordinator_of_isFinished hfinished]; trivial)
  have hsound := hfits.sound
  cases hsound with
  | finished => rfl
  | _ => cases hended

theorem consumer_of_isFinished (h : Reachable plan s) (hfinished : s.isFinished = true) {c : Nat}
    {consumer : Consumer} (found : s.consumers[c]? = some consumer) : consumer.stage = .finished :=
  ((orderly_of_reachable h).consumer c consumer found).seen
    (by rw [coordinator_of_isFinished hfinished]; trivial)

theorem sumOver_producers (h : Reachable plan s) (hfinished : s.isFinished = true) {M : Type}
    [AddCommMonoid M] (part : Nat → Producer → M) :
    sumOver part s.producers = ((Multiset.range plan.producers).map fun p ↦
      part p ⟨.finished, plan.items, plan.items, 0⟩).sum := by
  rw [← (orderly_of_reachable h).length_producers]
  exact sumOver_eq_sum fun p producer found ↦ by rw [producer_of_isFinished h hfinished found]

/-- At the end all items have been put. -/
theorem put_of_isFinished (h : Reachable plan s) (hfinished : s.isFinished = true) :
    s.put = plan.allItems :=
  sumOver_producers h hfinished _

/-- At the end no consumer holds an item. -/
theorem held_of_isFinished (h : Reachable plan s) (hfinished : s.isFinished = true) : s.held = 0 :=
  sumOver_eq_zero fun c consumer found ↦ by
    rw [Consumer.held, consumer_of_isFinished h hfinished found]

/-- At the end each worker has recorded all that it had to. -/
theorem recorded_of_isFinished (h : Reachable plan s) (hfinished : s.isFinished = true) :
    s.recorded = plan.allItems.map Gist.put + Multiset.replicate plan.consumers Gist.lacking +
      {Gist.closed} := by
  have hproducers : sumOver Producer.gists s.producers = plan.allItems.map Gist.put := by
    rw [sumOver_producers h hfinished, Plan.allItems, Multiset.map_bind]
    rfl
  have hconsumers : sumOver (fun _ ↦ Consumer.gists) s.consumers =
      Multiset.replicate plan.consumers Gist.lacking := by
    have hshare : ∀ c, ∀ consumer : Consumer, s.consumers[c]? = some consumer →
        consumer.gists = {Gist.lacking} := fun c consumer found ↦ by
      rw [Consumer.gists, consumer_of_isFinished h hfinished found]
    rw [sumOver_eq_sum hshare, (orderly_of_reachable h).length_consumers, Multiset.map_const',
      Multiset.sum_replicate, Multiset.card_range, Multiset.nsmul_singleton]
  rw [recorded, hproducers, hconsumers, coordinator_of_isFinished hfinished]
  rfl

/-- At the end all items have been recorded as taken. -/
theorem balanced_of_isFinished (h : Reachable plan s) (hfinished : s.isFinished = true) :
    s.Balanced plan.allItems := by
  obtain ⟨taken, hbalanced⟩ := exists_balanced h
  have hempty : s.monitor.queue.items = [] :=
    (orderly_of_reachable h).emptied (by rw [coordinator_of_isFinished hfinished]; trivial)
  have htaken := hbalanced.items
  rw [put_of_isFinished h hfinished, hempty, held_of_isFinished h hfinished, Multiset.coe_nil,
    zero_add, zero_add] at htaken
  exact htaken ▸ hbalanced

/-- **At the end the journal says of each item that it was put and that it was taken**, of each
consumer that it found nothing left, of the queue that it was closed, and nothing else. -/
theorem gists_of_isFinished (h : Reachable plan s) (hfinished : s.isFinished = true) :
    s.gists = plan.allItems.map Gist.put + Multiset.replicate plan.consumers Gist.lacking +
      {Gist.closed} + plan.allItems.map Gist.taken := by
  rw [(balanced_of_isFinished h hfinished).journal, recorded_of_isFinished h hfinished]

/-- At the end the report counts all items. -/
theorem report_of_isFinished (h : Reachable plan s) (hfinished : s.isFinished = true) :
    s.report = ⟨plan.producers * plan.items, 0, plan.producers * plan.items⟩ := by
  have hproduced : (s.producers.map Producer.accepted).sum = plan.producers * plan.items := by
    rw [← sumOver_const, sumOver_producers h hfinished, Multiset.map_const', Multiset.sum_replicate,
      Multiset.card_range, Nat.nsmul_eq_mul]
  have hrejected : (s.producers.map Producer.refused).sum = 0 := by
    rw [← sumOver_const, sumOver_producers h hfinished, Multiset.map_const', Multiset.sum_replicate,
      nsmul_zero]
  have hconsumed : (s.consumers.map Consumer.consumed).sum = plan.producers * plan.items := by
    rw [← sumOver_const, ← Plan.card_allItems]
    exact (balanced_of_isFinished h hfinished).consumed
  rw [(reported_of_reachable h).report, coordinator_of_isFinished hfinished, Report.ofSeen,
    ← hproduced, ← hrejected]
  exact congrArg (Report.mk _ _) (hconsumed.trans hproduced.symm)

/-- How often something is said in a journal, read off from what the journal says. -/
theorem countP_gist (s : State) (p : Gist String → Bool) :
    s.journal.entries.countP (fun event ↦ p event.gist) = s.gists.countP (p · = true) := by
  rw [gists, Multiset.coe_countP, List.countP_map]
  simp only [Bool.decide_eq_true]
  rfl

/-- How often something is said in the journal at the end. -/
theorem countP_of_isFinished (h : Reachable plan s) (hfinished : s.isFinished = true)
    (p : Gist String → Bool) :
    s.journal.entries.countP (fun event ↦ p event.gist) =
      plan.allItems.countP (fun item ↦ p (.put item) = true) +
        (if p .lacking then plan.consumers else 0) + (if p .closed then 1 else 0) +
        plan.allItems.countP (fun item ↦ p (.taken item) = true) := by
  have hreplicate : ∀ (n : Nat) (gist : Gist String),
      (Multiset.replicate n gist).countP (p · = true) = if p gist then n else 0 := fun n gist ↦ by
    rw [← Multiset.coe_replicate, Multiset.coe_countP, List.countP_replicate]
    simp only [Bool.decide_eq_true]
  rw [countP_gist, gists_of_isFinished h hfinished, ← Multiset.replicate_one, Multiset.countP_add,
    Multiset.countP_add, Multiset.countP_add, hreplicate, hreplicate, Multiset.countP_map,
    Multiset.countP_map, Multiset.countP_eq_card_filter, Multiset.countP_eq_card_filter]

end State

/-! ### Delivery -/

/-- Everything has been delivered exactly once, and the journal of the demonstration says so. -/
structure Delivery (plan : Plan) (s : State) : Prop where
  /-- All items were put, none was refused, and all were taken. -/
  report : s.report = ⟨plan.producers * plan.items, 0, plan.producers * plan.items⟩
  /-- No two items have the same name. -/
  distinct : ∀ p p' n n', itemName p n = itemName p' n' → p = p' ∧ n = n'
  /-- One event puts an item, and it was accepted. -/
  putOnce : ∀ p < plan.producers, ∀ n, 1 ≤ n → n ≤ plan.items → ∃ event,
    s.journal.entries.filter (fun e ↦ e.operation == .enqueue && e.item == some (itemName p n)) =
      [event] ∧ event.accepted = true
  /-- One event takes an item. -/
  takenOnce : ∀ p < plan.producers, ∀ n, 1 ≤ n → n ≤ plan.items → ∃ event,
    s.journal.entries.filter (fun e ↦ e.operation == .dequeue && e.accepted &&
      e.item == some (itemName p n)) = [event]
  /-- The queue was closed once, and held nothing. -/
  discarded : s.notices.filterMap Notice.discarded? = [0]
  /-- There is an event of an item that is put for each item. -/
  puts : s.journal.entries.countP (fun e ↦ e.operation == .enqueue) = plan.producers * plan.items
  /-- There is an event of an item that is taken for each item. -/
  takes : s.journal.count .dequeue = plan.producers * plan.items
  /-- There is an event of each consumer that found nothing left. -/
  refusals : s.journal.entries.countP (fun e ↦ e.operation == .dequeue && !e.accepted) =
    plan.consumers
  /-- There is one closing event. -/
  closings : s.journal.entries.countP (fun e ↦ e.operation == .close) = 1
  /-- There are no other events. -/
  length : s.journal.length = 2 * plan.producers * plan.items + plan.consumers + 1

/-- **Everything is delivered exactly once.** However the steps of a demonstration are interleaved,
when it is over, all items have been put and taken once, and the journal records that and the
closing. -/
theorem State.delivers {plan : Plan} {s : State} (h : Reachable plan s)
    (hfinished : s.isFinished = true) : Delivery plan s where
  report := report_of_isFinished h hfinished
  distinct _ _ _ _ := itemName_inj
  putOnce p hp n hpos hn := by
    have hone := Plan.countP_allItems hp hpos hn
    have hcount : s.journal.entries.countP (fun e ↦
        e.operation == .enqueue && e.item == some (itemName p n)) = 1 := by
      simpa [Event.gist, Gist.put, Gist.taken, Gist.lacking, Gist.closed, hone] using
        countP_of_isFinished h hfinished fun gist ↦
          gist.operation == .enqueue && gist.item == some (itemName p n)
    have haccepted : ∀ e ∈ s.journal.entries, e.operation = .enqueue → e.accepted = true := by
      simpa [Event.gist, Gist.put, Gist.taken, Gist.lacking, Gist.closed] using
        countP_of_isFinished h hfinished fun gist ↦ gist.operation == .enqueue && !gist.accepted
    rw [List.countP_eq_length_filter] at hcount
    obtain ⟨event, hevent⟩ := List.length_eq_one_iff.1 hcount
    obtain ⟨hmem, hsays⟩ := List.mem_filter.1 (hevent ▸ List.mem_singleton_self event)
    refine ⟨event, hevent, haccepted event hmem ?_⟩
    simpa using (Bool.and_eq_true_iff.1 hsays).1
  takenOnce p hp n hpos hn := by
    have hone := Plan.countP_allItems hp hpos hn
    have hcount : s.journal.entries.countP (fun e ↦
        e.operation == .dequeue && e.accepted && e.item == some (itemName p n)) = 1 := by
      simpa [Event.gist, Gist.put, Gist.taken, Gist.lacking, Gist.closed, hone] using
        countP_of_isFinished h hfinished fun gist ↦
          gist.operation == .dequeue && gist.accepted && gist.item == some (itemName p n)
    rw [List.countP_eq_length_filter] at hcount
    exact List.length_eq_one_iff.1 hcount
  discarded := by
    rw [(reported_of_reachable h).discarded, coordinator_of_isFinished hfinished]
    rfl
  puts := by
    have hcount := countP_of_isFinished h hfinished fun gist ↦ gist.operation == .enqueue
    simpa [Gist.put, Gist.taken, Gist.lacking, Gist.closed, Event.gist, Plan.card_allItems]
      using hcount
  takes := by
    have hcount := countP_of_isFinished h hfinished fun gist ↦
      gist.operation == .dequeue && gist.accepted
    rw [Journal.count]
    simpa [Gist.put, Gist.taken, Gist.lacking, Gist.closed, Event.gist, Plan.card_allItems]
      using hcount
  refusals := by
    have hcount := countP_of_isFinished h hfinished fun gist ↦
      gist.operation == .dequeue && !gist.accepted
    simpa [Gist.put, Gist.taken, Gist.lacking, Gist.closed, Event.gist, Plan.card_allItems]
      using hcount
  closings := by
    have hcount := countP_of_isFinished h hfinished fun gist ↦ gist.operation == .close
    simpa [Gist.put, Gist.taken, Gist.lacking, Gist.closed, Event.gist, Plan.card_allItems]
      using hcount
  length := by
    have hcard := congrArg Multiset.card (gists_of_isFinished h hfinished)
    simp only [gists, Multiset.coe_card, List.length_map, Multiset.card_add, Multiset.card_map,
      Multiset.card_replicate, Multiset.card_singleton, Plan.card_allItems] at hcard
    rw [Journal.length, hcard, Nat.mul_assoc]
    omega

/-- Consumer 1 takes the only item after consumer 0 has been signalled for it and the coordinator
has found the queue full, and records it after the queue is closed. -/
theorem State.delivers_overtaken :
    ∃ s, Reachable ⟨1, 2, 1⟩ s ∧ s.isFinished = true ∧ Delivery ⟨1, 2, 1⟩ s := by
  let actions : List Action := List.flatten [.replicate 5 .coordinator,
    [.consumer 0, .stir 0, .consumer 0], .replicate 4 (.producer 0 0), .replicate 3 .coordinator,
    [.consumer 1, .consumer 0], .replicate 3 .coordinator, .replicate 5 (.consumer 1),
    .replicate 3 (.consumer 0), .replicate 4 .coordinator]
  have hsteps : (actions.foldlM (next? ⟨1, 2, 1⟩) (initial ⟨1, 2, 1⟩ 1 0)).map isFinished =
      some true := by decide +kernel
  obtain ⟨s, hreach, hfinished⟩ := Reachable.exists_of_foldlM hsteps
  exact ⟨s, hreach, hfinished, delivers hreach hfinished⟩

end Demo

end QueueJournal
