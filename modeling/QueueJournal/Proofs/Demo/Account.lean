import Mathlib.Algebra.BigOperators.Group.Multiset.Basic
import Mathlib.Data.Multiset.Range
import Mathlib.Tactic.Abel
import QueueJournal.Proofs.Demo.Order

/-!
# The account of a demonstration

Where the items of a demonstration are, and what its journal says of them. Every item that has been
put lies in the queue, is held by one consumer, or has been recorded as taken; and the journal holds
an event for each item that a producer or a consumer is done with, one for each consumer that has
ended, one for the closing, and no others. `State.Balanced` says so with multisets, and the items
that have been recorded as taken appear in it as a multiset that grows along the way.

Each step moves one worker and one item at most, so a worker that goes on is entered into the
account by one lemma for each kind (`Balanced.moveProducer`, `Balanced.moveConsumer`).
-/

namespace QueueJournal

/-- What an event says, without its number, its time, its worker and its counts. -/
structure Gist (α : Type) where
  /-- The operation. -/
  operation : Operation
  /-- Whether it had an effect. -/
  accepted : Bool
  /-- The item that was put or taken. -/
  item : Option α
deriving DecidableEq

/-- What an event says. -/
def Event.gist {α : Type} (event : Event α) : Gist α :=
  ⟨event.operation, event.accepted, event.item⟩

namespace Gist

variable {α : Type}

/-- An item was put. -/
def put (item : α) : Gist α := ⟨.enqueue, true, some item⟩

/-- An item was taken. -/
def taken (item : α) : Gist α := ⟨.dequeue, true, some item⟩

/-- There was nothing to take. -/
def lacking : Gist α := ⟨.dequeue, false, none⟩

/-- The queue was closed. -/
def closed : Gist α := ⟨.close, true, none⟩

end Gist

namespace Event

variable {α : Type} (stamp : Stamp) (worker : String)

@[simp]
theorem gist_enqueue (item : α) (index : Nat) :
    (enqueue stamp worker item (some index)).gist = .put item := rfl

@[simp]
theorem gist_dequeue_some (item : α) :
    (dequeue stamp worker (some item)).gist = .taken item := rfl

@[simp]
theorem gist_dequeue_none : (dequeue stamp worker none : Event α).gist = .lacking := rfl

@[simp]
theorem gist_close : (close stamp worker : Event α).gist = .closed := rfl

end Event

namespace Demo

/-! ### What single workers contribute -/

/-- The first `n` items of a producer. -/
def firstItems (p n : Nat) : Multiset String :=
  (Multiset.range n).map fun k ↦ itemName p (k + 1)

@[simp]
theorem firstItems_zero (p : Nat) : firstItems p 0 = 0 := rfl

theorem firstItems_succ (p n : Nat) :
    firstItems p (n + 1) = firstItems p n + {itemName p (n + 1)} := by
  rw [firstItems, Multiset.range_succ, Multiset.map_cons, ← Multiset.singleton_add, add_comm]
  rfl

/-- What a producer has recorded. -/
def Producer.gists (p : Nat) (producer : Producer) : Multiset (Gist String) :=
  (firstItems p producer.done).map Gist.put

/-- The item that a consumer has been given and has not recorded. -/
def Consumer.held (consumer : Consumer) : Multiset String :=
  match consumer.stage with
  | .stamping item => item.toList
  | .filing event => event.item.toList
  | _ => 0

/-- What a consumer has recorded about its end. -/
def Consumer.gists (consumer : Consumer) : Multiset (Gist String) :=
  match consumer.stage with
  | .finished => {Gist.lacking}
  | _ => 0

/-- What the coordinator has recorded. -/
def CoordinatorStage.gists : CoordinatorStage → Multiset (Gist String)
  | awaitingConsumers _ => {Gist.closed}
  | finished => {Gist.closed}
  | _ => 0

/-! ### What all workers contribute -/

/-- The contributions of all workers of one kind. -/
def sumOver {ω M : Type} [AddCommMonoid M] (part : Nat → ω → M) (workers : List ω) : M :=
  (workers.mapIdx part).sum

/-- What the contribution of one worker changes by is what that of all changes by. -/
theorem sumOver_set {ω M : Type} [AddCommMonoid M] {workers : List ω} {i : Nat} {old : ω}
    (part : Nat → ω → M) (found : workers[i]? = some old) (new : ω) :
    sumOver part (workers.set i new) + part i old = sumOver part workers + part i new := by
  rw [sumOver, sumOver, List.mapIdx_set]
  exact sum_set_add (by rw [List.getElem?_mapIdx, found, Option.map_some]) _

/-- Workers contribute together what each of them does. -/
theorem sumOver_eq_sum {ω M : Type} [AddCommMonoid M] {part : Nat → ω → M} {workers : List ω}
    {share : Nat → M} (h : ∀ i, ∀ worker : ω, workers[i]? = some worker → part i worker = share i) :
    sumOver part workers = ((Multiset.range workers.length).map share).sum := by
  have hlist : workers.mapIdx part = (List.range workers.length).map share := by
    refine List.ext_getElem (by simp) fun i hi _ ↦ ?_
    rw [List.getElem_mapIdx, List.getElem_map, List.getElem_range]
    exact h i _ (List.getElem?_eq_getElem _)
  rw [sumOver, hlist]
  rfl

theorem sumOver_const {ω M : Type} [AddCommMonoid M] (part : ω → M) (workers : List ω) :
    sumOver (fun _ ↦ part) workers = (workers.map part).sum :=
  congrArg List.sum (List.ext_getElem (by simp) (by simp))

/-- Workers that contribute nothing contribute nothing together. -/
theorem sumOver_eq_zero {ω M : Type} [AddCommMonoid M] {part : Nat → ω → M} {workers : List ω}
    (h : ∀ i, ∀ worker : ω, workers[i]? = some worker → part i worker = 0) :
    sumOver part workers = 0 := by
  rw [sumOver_eq_sum h, Multiset.map_const', Multiset.sum_replicate, nsmul_zero]

/-- What workers contribute together, one of them contributes. -/
theorem mem_sumOver {ω β : Type} {part : Nat → ω → Multiset β} {workers : List ω} {b : β} :
    b ∈ sumOver part workers ↔ ∃ i worker, workers[i]? = some worker ∧ b ∈ part i worker := by
  have hsum : ∀ l : List (Multiset β), b ∈ l.sum ↔ ∃ m ∈ l, b ∈ m := fun l ↦ by
    induction l with
    | nil => simp
    | cons m l ih => simp [ih]
  rw [sumOver, hsum]
  constructor
  · rintro ⟨m, hm, hb⟩
    obtain ⟨i, hi, rfl⟩ := List.mem_mapIdx.1 hm
    exact ⟨i, workers[i], List.getElem?_eq_getElem hi, hb⟩
  · rintro ⟨i, worker, found, hb⟩
    obtain ⟨hi, rfl⟩ := List.getElem?_eq_some_iff.1 found
    exact ⟨_, List.mem_mapIdx.2 ⟨i, hi, rfl⟩, hb⟩

namespace State

variable {plan : Plan} {s s' : State} {action : Action} {taken : Multiset String}

/-- The items that producers have put. -/
def put (s : State) : Multiset String :=
  sumOver (fun p producer ↦ firstItems p producer.accepted) s.producers

/-- The items that consumers hold. -/
def held (s : State) : Multiset String :=
  sumOver (fun _ ↦ Consumer.held) s.consumers

/-- How many items consumers count as taken. -/
def consumed (s : State) : Nat :=
  sumOver (fun _ ↦ Consumer.consumed) s.consumers

/-- What the journal says. -/
def gists (s : State) : Multiset (Gist String) :=
  s.journal.entries.map Event.gist

/-- What the workers have recorded, items that were taken apart. -/
def recorded (s : State) : Multiset (Gist String) :=
  sumOver Producer.gists s.producers + sumOver (fun _ ↦ Consumer.gists) s.consumers +
    s.coordinator.gists

/-- No item is lost or doubled, where `taken` are those that have been recorded as taken. -/
structure Balanced (s : State) (taken : Multiset String) : Prop where
  /-- An item that was put is in the queue, held, or recorded as taken. -/
  items : s.put = s.monitor.queue.items + s.held + taken
  /-- The consumers count what is recorded. -/
  consumed : s.consumed = taken.card
  /-- The journal says what has been done. -/
  journal : s.gists = s.recorded + taken.map Gist.taken

namespace Balanced

/-- Nobody but the coordinator goes on, and it files nothing. -/
theorem keep (h : s.Balanced taken) (producers : s'.producers = s.producers)
    (consumers : s'.consumers = s.consumers)
    (items : s'.monitor.queue.items = s.monitor.queue.items) (journal : s'.journal = s.journal)
    (coordinator : s'.coordinator.gists = s.coordinator.gists) : s'.Balanced taken := by
  refine ⟨?_, ?_, ?_⟩
  · rw [put, held, producers, consumers, items]
    exact h.items
  · rw [State.consumed, consumers]
    exact h.consumed
  · rw [gists, recorded, producers, consumers, journal, coordinator]
    exact h.journal

/-- A producer goes on. -/
theorem moveProducer (h : s.Balanced taken) {p : Nat} {old new : Producer}
    (found : s.producers[p]? = some old) (producers : s'.producers = s.producers.set p new)
    (consumers : s'.consumers = s.consumers)
    (items : (s'.monitor.queue.items : Multiset String) + firstItems p old.accepted =
      s.monitor.queue.items + firstItems p new.accepted)
    (journal : s'.gists + old.gists p = s.gists + new.gists p)
    (coordinator : s'.coordinator.gists = s.coordinator.gists) : s'.Balanced taken := by
  refine ⟨?_, ?_, ?_⟩
  · have hput := sumOver_set (fun p producer ↦ firstItems p producer.accepted) found new
    rw [← producers] at hput
    apply add_right_cancel (b := firstItems p old.accepted)
    calc s'.put + firstItems p old.accepted
        = s.put + firstItems p new.accepted := hput
      _ = (s.monitor.queue.items + firstItems p new.accepted) + s.held + taken := by
          rw [h.items]
          abel
      _ = s'.monitor.queue.items + s'.held + taken + firstItems p old.accepted := by
          rw [← items, held, held, consumers]
          abel
  · rw [State.consumed, consumers]
    exact h.consumed
  · have hrecorded := sumOver_set Producer.gists found new
    rw [← producers] at hrecorded
    apply add_right_cancel (b := old.gists p)
    calc s'.gists + old.gists p
        = sumOver Producer.gists s.producers + new.gists p +
            sumOver (fun _ ↦ Consumer.gists) s.consumers + s.coordinator.gists +
            taken.map Gist.taken := by
          rw [journal, h.journal, recorded]
          abel
      _ = s'.recorded + taken.map Gist.taken + old.gists p := by
          rw [← hrecorded, recorded, consumers, coordinator]
          abel

/-- A consumer goes on, and may record an item as taken. -/
theorem moveConsumer (h : s.Balanced taken) {c : Nat} {old new : Consumer} {more : Multiset String}
    (found : s.consumers[c]? = some old) (consumers : s'.consumers = s.consumers.set c new)
    (producers : s'.producers = s.producers)
    (items : (s'.monitor.queue.items : Multiset String) + new.held + more =
      s.monitor.queue.items + old.held)
    (consumed : new.consumed = old.consumed + more.card)
    (journal : s'.gists + old.gists = s.gists + new.gists + more.map Gist.taken)
    (coordinator : s'.coordinator.gists = s.coordinator.gists) :
    s'.Balanced (taken + more) := by
  refine ⟨?_, ?_, ?_⟩
  · have hheld := sumOver_set (fun _ ↦ Consumer.held) found new
    rw [← consumers] at hheld
    apply add_right_cancel (b := old.held)
    calc s'.put + old.held
        = (s.monitor.queue.items + old.held) + s.held + taken := by
          rw [put, producers, ← put, h.items]
          abel
      _ = s'.monitor.queue.items + (s.held + new.held) + taken + more := by
          rw [← items]
          abel
      _ = s'.monitor.queue.items + s'.held + (taken + more) + old.held := by
          rw [held, ← hheld, held]
          abel
  · have hconsumed := sumOver_set (fun _ ↦ Consumer.consumed) found new
    rw [← consumers] at hconsumed
    have htaken := h.consumed
    rw [State.consumed] at htaken ⊢
    rw [Multiset.card_add]
    omega
  · have hrecorded := sumOver_set (fun _ ↦ Consumer.gists) found new
    rw [← consumers] at hrecorded
    apply add_right_cancel (b := old.gists)
    calc s'.gists + old.gists
        = sumOver Producer.gists s.producers +
            (sumOver (fun _ ↦ Consumer.gists) s.consumers + new.gists) + s.coordinator.gists +
            (taken.map Gist.taken + more.map Gist.taken) := by
          rw [journal, h.journal, recorded]
          abel
      _ = s'.recorded + (taken + more).map Gist.taken + old.gists := by
          rw [← hrecorded, recorded, producers, coordinator, Multiset.map_add]
          abel

/-- What is filed is added to what the journal says. -/
theorem gists_of_record {event : Event String} (journal : s'.journal = s.journal.record event) :
    s'.gists = s.gists + {event.gist} := by
  rw [gists, journal, Journal.entries_record, List.map_append, ← Multiset.coe_add]
  rfl

theorem initial (firstId now : Nat) : (State.initial plan firstId now).Balanced 0 := by
  have hproducer : ∀ p, ∀ producer : Producer,
      (List.replicate plan.producers Producer.unborn)[p]? = some producer →
        producer = .unborn := fun p producer found ↦
    List.eq_of_mem_replicate (List.mem_of_getElem? found)
  have hconsumer : ∀ c, ∀ consumer : Consumer,
      (List.replicate plan.consumers Consumer.unborn)[c]? = some consumer →
        consumer = .unborn := fun c consumer found ↦
    List.eq_of_mem_replicate (List.mem_of_getElem? found)
  refine ⟨?_, ?_, ?_⟩
  · rw [put, held, sumOver_eq_zero, sumOver_eq_zero]
    · rfl
    · exact fun c consumer found ↦ by rw [hconsumer c consumer found]; rfl
    · exact fun p producer found ↦ by rw [hproducer p producer found]; rfl
  · exact sumOver_eq_zero fun c consumer found ↦ by rw [hconsumer c consumer found]; rfl
  · rw [recorded, sumOver_eq_zero, sumOver_eq_zero]
    · rfl
    · exact fun c consumer found ↦ by rw [hconsumer c consumer found]; rfl
    · exact fun p producer found ↦ by rw [hproducer p producer found]; rfl

/-- An item that is given leaves the queue for the consumer. -/
theorem held_given {q q' : Queue String} {item : Option String}
    (effect : Queue.Effect q .dequeue (.item item) q') (ready : q.mustWait = false)
    (count : Nat) :
    (q'.items : Multiset String) + (Consumer.mk (.stamping item) count).held = q.items := by
  rcases effect.of_ready ready with ⟨a, items, -, head, rfl, rfl⟩ | ⟨-, rfl, rfl⟩
  · rw [head, ← Multiset.cons_coe, ← Multiset.singleton_add, add_comm]
    rfl
  · exact add_zero _

theorem step (h : s.Balanced taken) (horder : s.Orderly plan) (hstep : s.Step plan action s') :
    ∃ taken, s'.Balanced taken := by
  cases hstep.move with
  | @hireConsumer now started consumer stage found =>
    have hunborn := horder.consumer_unborn stage found
    refine ⟨taken + 0, ?_⟩
    apply h.moveConsumer found rfl
    case journal => simp [gists, Consumer.gists, hunborn]
    case items => simp [Consumer.held, hunborn]
    all_goals simp [CoordinatorStage.gists, stage]
  | consumersHired stage =>
    exact ⟨taken, h.keep rfl rfl rfl rfl (by simp [CoordinatorStage.gists, stage])⟩
  | hireProducer stage found =>
    refine ⟨taken, ?_⟩
    apply h.moveProducer found rfl
    case coordinator => simp [CoordinatorStage.gists, stage]
    all_goals rfl
  | producersHired stage =>
    exact ⟨taken, h.keep rfl rfl rfl rfl (by simp [CoordinatorStage.gists, stage])⟩
  | countProducer stage =>
    exact ⟨taken, h.keep rfl rfl rfl rfl (by simp [CoordinatorStage.gists, stage])⟩
  | producersEnded stage =>
    exact ⟨taken, h.keep rfl rfl rfl rfl (by simp [CoordinatorStage.gists, stage])⟩
  | pollInVain => exact ⟨taken, h.keep rfl rfl rfl rfl rfl⟩
  | pollEmpty stage =>
    exact ⟨taken, h.keep rfl rfl rfl rfl (by simp [CoordinatorStage.gists, stage])⟩
  | stampClosing stage =>
    exact ⟨taken, h.keep rfl rfl rfl rfl (by simp [CoordinatorStage.gists, stage])⟩
  | @close now event discarded monitor stage acts =>
    -- The coordinator has seen the queue empty, so nothing is discarded.
    have hends := Monitor.act_ends (acts 0)
    have hempty := horder.emptied (by simp [stage])
    have hopen : s.monitor.queue.closed = false := by simp [horder.closed, stage]
    have hitems : monitor.queue.items = s.monitor.queue.items := by
      rw [(hends.effect.of_close hopen).2, hempty]
    exact ⟨taken, h.keep rfl rfl hitems rfl (by simp [CoordinatorStage.gists, stage])⟩
  | @fileClosing now event stage =>
    obtain ⟨stamp, rfl⟩ : ∃ stamp, event = .close stamp coordinatorName := by
      simpa [stage] using horder.coordinator
    refine ⟨taken, h.items, h.consumed, ?_⟩
    rw [gists_of_record rfl, Event.gist_close, h.journal, recorded, recorded, stage]
    simp only [CoordinatorStage.gists]
    abel
  | countConsumer stage =>
    exact ⟨taken, h.keep rfl rfl rfl rfl (by simp [CoordinatorStage.gists, stage])⟩
  | consumersEnded stage =>
    exact ⟨taken, h.keep rfl rfl rfl rfl (by simp [CoordinatorStage.gists, stage])⟩
  | @put now p pick producer index monitor found ready more acts =>
    have hends := Monitor.act_ends (acts 0)
    have hsound := (horder.producer p producer found).sound
    cases hsound with
    | ready =>
      refine ⟨taken, ?_⟩
      apply h.moveProducer found rfl
      case items =>
        rw [firstItems_succ, hends.effect.of_accepted.2, ← Multiset.coe_add, Multiset.coe_singleton]
        abel
      all_goals rfl
    | _ => cases ready
  | putInVain found ready more acts =>
    exact absurd (acts 0) (horder.not_refused found (by simp [ready]))
  | @endProducer now p pick producer found ready enough =>
    refine ⟨taken, ?_⟩
    apply h.moveProducer found rfl <;> rfl
  | @stampPut now p pick producer index found stamping =>
    refine ⟨taken, ?_⟩
    apply h.moveProducer found rfl <;> rfl
  | @filePut now p pick producer event found filing =>
    have hsound := (horder.producer p producer found).sound
    cases hsound with
    | filing hdone =>
      cases filing
      refine ⟨taken, ?_⟩
      apply h.moveProducer found rfl
      case journal =>
        rw [gists_of_record rfl, Event.gist_enqueue, Producer.gists, Producer.gists,
          firstItems_succ, Multiset.map_add, Multiset.map_singleton]
        abel
      all_goals rfl
    | _ => cases filing
  | @sleep now c consumer monitor found asking acts =>
    obtain ⟨-, -, rfl⟩ := Monitor.act_sleeps acts
    refine ⟨taken + 0, ?_⟩
    apply h.moveConsumer found rfl
    case journal => simp [gists, Consumer.gists, asking]
    case items => simp [Consumer.held, asking]
    all_goals rfl
  | @take now c consumer item monitor found asking acts =>
    have hends := Monitor.act_ends acts
    have hgiven := held_given hends.effect (hends.ready rfl) consumer.consumed
    refine ⟨taken + 0, ?_⟩
    apply h.moveConsumer found rfl
    case journal => simp [gists, Consumer.gists, asking]
    case items =>
      rw [add_zero, hgiven, show consumer.held = 0 by rw [Consumer.held, asking], add_zero]
    all_goals rfl
  | @sleepAgain now c consumer monitor found waiting signalled retakes =>
    obtain ⟨-, -, rfl⟩ := Monitor.retake_sleeps retakes
    refine ⟨taken + 0, ?_⟩
    apply h.moveConsumer found rfl
    case journal => simp [gists, Consumer.gists, waiting]
    case items => simp [Consumer.held, waiting]
    all_goals rfl
  | @takeLate now c consumer item monitor found waiting signalled retakes =>
    have hends := Monitor.retake_ends retakes
    have hgiven := held_given hends.effect (horder.ready_of_retake retakes) consumer.consumed
    refine ⟨taken + 0, ?_⟩
    apply h.moveConsumer found rfl
    case journal => simp [gists, Consumer.gists, waiting]
    case items =>
      rw [add_zero, hgiven, show consumer.held = 0 by rw [Consumer.held, waiting], add_zero]
    all_goals rfl
  | @stampTake now c consumer item found stamping =>
    refine ⟨taken + 0, ?_⟩
    apply h.moveConsumer found rfl
    case journal => simp [gists, Consumer.gists, stamping]
    case items => simp [Consumer.held, stamping, Event.dequeue]
    all_goals rfl
  | @fileTake now c consumer event found filing accepted =>
    have hsound := (horder.consumer c consumer found).sound
    cases hsound with
    | @filing count stamp item hitem =>
      cases filing
      cases item with
      | none => cases accepted
      | some a =>
        refine ⟨taken + {a}, ?_⟩
        apply h.moveConsumer found rfl
        case journal =>
          rw [gists_of_record rfl, Event.gist_dequeue_some]
          simp [Consumer.gists]
        case items => simp [Consumer.held, Event.dequeue]
        all_goals rfl
    | _ => cases filing
  | @endConsumer now c consumer event found filing refused =>
    have hsound := (horder.consumer c consumer found).sound
    cases hsound with
    | @filing count stamp item hitem =>
      cases filing
      cases item with
      | some a => cases refused
      | none =>
        refine ⟨taken + 0, ?_⟩
        apply h.moveConsumer found rfl
        case journal =>
          rw [gists_of_record rfl, Event.gist_dequeue_none]
          simp [Consumer.gists]
        case items => simp [Consumer.held, Event.dequeue]
        all_goals rfl
    | _ => cases filing
  | stir parked =>
    refine ⟨taken, h.keep rfl rfl ?_ rfl rfl⟩
    rw [Monitor.wake_eq parked]

end Balanced

/-- **No item is ever lost or doubled.** -/
theorem exists_balanced (h : Reachable plan s) : ∃ taken, s.Balanced taken := by
  induction h with
  | initial firstId now => exact ⟨0, .initial firstId now⟩
  | step hreach hstep ih =>
    obtain ⟨taken, hbalanced⟩ := ih
    exact hbalanced.step (orderly_of_reachable hreach) hstep

end State

end Demo

end QueueJournal
