import Mathlib.Algebra.BigOperators.Group.List.Basic
import QueueJournal.Proofs.Demo.Step

/-!
# The order of a demonstration

What the stage of the coordinator says about everybody else: which workers have been started, which
have ended, whether the queue is closed, and whether it is empty. `State.Orderly` holds in every
state that can be reached (`orderly_of_reachable`). Most of it is about one worker at a time, so a
worker that goes on is put in its place by one lemma for each kind (`Orderly.moveProducer`,
`Orderly.moveConsumer`).

A producer that has not ended keeps the coordinator from looking at the queue, so the queue is open
while items are put, and none is refused. A consumer is given none only by a closed queue.
-/

namespace QueueJournal.Demo

/-! ### What a stage of the coordinator says -/

namespace CoordinatorStage

/-- The coordinator has started this consumer. -/
@[simp]
def HasHiredConsumer : CoordinatorStage → Nat → Prop
  | hiringConsumers started, c => c < started
  | _, _ => True

/-- The coordinator has started this producer. -/
@[simp]
def HasHiredProducer : CoordinatorStage → Nat → Prop
  | hiringConsumers _, _ => False
  | hiringProducers started, p => p < started
  | _, _ => True

/-- The coordinator has seen this producer end. -/
@[simp]
def HasSeenProducer : CoordinatorStage → Nat → Prop
  | hiringConsumers _, _ => False
  | hiringProducers _, _ => False
  | awaitingProducers ended, p => p < ended
  | _, _ => True

/-- The coordinator has seen this consumer end. -/
@[simp]
def HasSeenConsumer : CoordinatorStage → Nat → Prop
  | awaitingConsumers ended, c => c < ended
  | finished, _ => True
  | _, _ => False

/-- The coordinator has seen the queue empty. -/
@[simp]
def HasSeenEmpty : CoordinatorStage → Prop
  | hiringConsumers _ => False
  | hiringProducers _ => False
  | awaitingProducers _ => False
  | polling => False
  | _ => True

/-- The coordinator has closed the queue. -/
@[simp]
def hasClosed : CoordinatorStage → Bool
  | filing _ => true
  | awaitingConsumers _ => true
  | finished => true
  | _ => false

/-- The event that the coordinator holds is the closing event. -/
@[simp]
def Sound : CoordinatorStage → Prop
  | closing event => ∃ stamp, event = .close stamp coordinatorName
  | filing event => ∃ stamp, event = .close stamp coordinatorName
  | _ => True

variable {stage : CoordinatorStage}

theorem hasSeenEmpty_of_hasClosed (h : stage.hasClosed = true) : stage.HasSeenEmpty := by
  cases stage <;> simp_all

theorem hasSeenProducer_of_hasSeenEmpty (h : stage.HasSeenEmpty) (p : Nat) :
    stage.HasSeenProducer p := by
  cases stage <;> simp_all

end CoordinatorStage

/-! ### What the stages of the workers say -/

/-- The producers that there can be: nothing is refused, and an item counts as accepted as soon as
it is put. -/
inductive Producer.Sound (plan : Plan) (p : Nat) : Producer → Prop where
  /-- It has not been started. -/
  | unborn : Sound plan p ⟨.unborn, 0, 0, 0⟩
  /-- It is about to put its next item, or to end. -/
  | ready {done : Nat} (h : done ≤ plan.items) : Sound plan p ⟨.ready, done, done, 0⟩
  /-- It has put an item. -/
  | stamping {done index : Nat} (h : done < plan.items) :
    Sound plan p ⟨.stamping (some index), done, done + 1, 0⟩
  /-- It holds the event of an item. -/
  | filing {done index : Nat} {stamp : Stamp} (h : done < plan.items) :
    Sound plan p ⟨.filing (.enqueue stamp (producerName p) (itemName p (done + 1)) (some index)),
      done, done + 1, 0⟩
  /-- It has put all its items. -/
  | finished : Sound plan p ⟨.finished, plan.items, plan.items, 0⟩

/-- The consumers that there can be, where `closed` says whether the queue is closed. -/
inductive Consumer.Sound (closed : Bool) (c : Nat) : Consumer → Prop where
  /-- It has not been started. -/
  | unborn : Sound closed c ⟨.unborn, 0⟩
  /-- It is about to ask for an item. -/
  | asking {consumed : Nat} : Sound closed c ⟨.asking, consumed⟩
  /-- It waits for an item. -/
  | waiting {consumed : Nat} : Sound closed c ⟨.waiting, consumed⟩
  /-- It has been given an item, or none since the queue is closed. -/
  | stamping {consumed : Nat} {item : Option String} (h : item = none → closed = true) :
    Sound closed c ⟨.stamping item, consumed⟩
  /-- It holds the event of that. -/
  | filing {consumed : Nat} {stamp : Stamp} {item : Option String}
    (h : item = none → closed = true) :
    Sound closed c ⟨.filing (.dequeue stamp (consumerName c) item), consumed⟩
  /-- It has been given none. -/
  | finished {consumed : Nat} (h : closed = true) : Sound closed c ⟨.finished, consumed⟩

/-- A producer is where the coordinator expects it. -/
structure Producer.Fits (plan : Plan) (stage : CoordinatorStage) (p : Nat) (producer : Producer) :
    Prop where
  /-- It has been started unless the coordinator has still to do it. -/
  hired : producer.stage = .unborn ↔ ¬ stage.HasHiredProducer p
  /-- It has ended if the coordinator says so. -/
  seen : stage.HasSeenProducer p → producer.stage = .finished
  /-- It is one that there can be. -/
  sound : producer.Sound plan p

/-- A consumer is where the coordinator expects it. -/
structure Consumer.Fits (stage : CoordinatorStage) (c : Nat) (consumer : Consumer) : Prop where
  /-- It has been started unless the coordinator has still to do it. -/
  hired : consumer.stage = .unborn ↔ ¬ stage.HasHiredConsumer c
  /-- It has ended if the coordinator says so. -/
  seen : stage.HasSeenConsumer c → consumer.stage = .finished
  /-- It is one that there can be. -/
  sound : consumer.Sound stage.hasClosed c

/-! ### Lists of workers -/

/-- What holds of the entries of a list and of a new entry holds when that is put in its place. -/
theorem forall_getElem?_set {ω : Type} {P : Nat → ω → Prop} {l : List ω} {i : Nat} {a : ω}
    (h : ∀ j b, l[j]? = some b → P j b) (ha : P i a) : ∀ j b, (l.set i a)[j]? = some b → P j b := by
  intro j b hb
  rcases eq_or_ne i j with rfl | hne
  · rw [List.getElem?_set_self'] at hb
    obtain ⟨_, -, rfl⟩ := Option.map_eq_some_iff.1 hb
    exact ha
  · rw [List.getElem?_set_ne hne] at hb
    exact h j b hb

/-- What a new entry brings, and what the old one took away, is the difference of the sums. -/
theorem sum_set_add {M : Type} [AddCommMonoid M] {l : List M} {i : Nat} {a : M}
    (h : l[i]? = some a) (b : M) : (l.set i b).sum + a = l.sum + b := by
  induction l generalizing i with
  | nil => cases h
  | cons c l ih =>
    cases i with
    | zero =>
      obtain rfl : c = a := by simpa using h
      rw [List.set_cons_zero, List.sum_cons, List.sum_cons, add_right_comm, add_comm b,
        add_right_comm]
    | succ i =>
      rw [List.set_cons_succ, List.sum_cons, List.sum_cons, add_assoc, ih (by simpa using h),
        add_assoc]

/-! ### The order of the stages -/

theorem Consumer.Sound.mono {closed closed' : Bool} {c : Nat} {consumer : Consumer}
    (h : consumer.Sound closed c) (hclosed : closed = true → closed' = true) :
    consumer.Sound closed' c := by
  cases h with
  | unborn => exact .unborn
  | asking => exact .asking
  | waiting => exact .waiting
  | stamping h => exact .stamping fun hnone ↦ hclosed (h hnone)
  | filing h => exact .filing fun hnone ↦ hclosed (h hnone)
  | finished h => exact .finished (hclosed h)

namespace State

variable {plan : Plan} {s s' : State} {action : Action}

/-- The stage of the coordinator says where everybody stands. -/
structure Orderly (plan : Plan) (s : State) : Prop where
  /-- There are as many producers as planned. -/
  length_producers : s.producers.length = plan.producers
  /-- There are as many consumers as planned. -/
  length_consumers : s.consumers.length = plan.consumers
  /-- Each producer is where it should be. -/
  producer : ∀ p, ∀ producer : Producer, s.producers[p]? = some producer →
    producer.Fits plan s.coordinator p
  /-- Each consumer is where it should be. -/
  consumer : ∀ c, ∀ consumer : Consumer, s.consumers[c]? = some consumer →
    consumer.Fits s.coordinator c
  /-- The coordinator holds the closing event if any. -/
  coordinator : s.coordinator.Sound
  /-- The queue is closed once the coordinator has closed it. -/
  closed : s.monitor.queue.closed = s.coordinator.hasClosed
  /-- The queue stays empty once the coordinator has seen it so. -/
  emptied : s.coordinator.HasSeenEmpty → s.monitor.queue.items = []
  /-- Nobody searches the queue, so the lock is sound. -/
  unpoisoned : s.monitor.poisoned = false

namespace Orderly

theorem lt_producers (h : s.Orderly plan) {p : Nat} {producer : Producer}
    (found : s.producers[p]? = some producer) : p < plan.producers :=
  h.length_producers ▸ (List.getElem?_eq_some_iff.1 found).1

theorem lt_consumers (h : s.Orderly plan) {c : Nat} {consumer : Consumer}
    (found : s.consumers[c]? = some consumer) : c < plan.consumers :=
  h.length_consumers ▸ (List.getElem?_eq_some_iff.1 found).1

/-- The producer that the coordinator is about to start has not been started. -/
theorem producer_unborn (h : s.Orderly plan) {started : Nat} {producer : Producer}
    (stage : s.coordinator = .hiringProducers started)
    (found : s.producers[started]? = some producer) : producer.stage = .unborn := by
  rw [(h.producer started producer found).hired, stage]
  exact Nat.lt_irrefl started

/-- The consumer that the coordinator is about to start has not been started. -/
theorem consumer_unborn (h : s.Orderly plan) {started : Nat} {consumer : Consumer}
    (stage : s.coordinator = .hiringConsumers started)
    (found : s.consumers[started]? = some consumer) : consumer.stage = .unborn := by
  rw [(h.consumer started consumer found).hired, stage]
  exact Nat.lt_irrefl started

/-- While a producer has not ended, the coordinator has not seen it end. -/
theorem not_hasSeenProducer (h : s.Orderly plan) {p : Nat} {producer : Producer}
    (found : s.producers[p]? = some producer) (live : producer.stage ≠ .finished) :
    ¬ s.coordinator.HasSeenProducer p :=
  fun hseen ↦ live ((h.producer p producer found).seen hseen)

/-- The queue is open while a producer has not ended. -/
theorem isOpen_of_live (h : s.Orderly plan) {p : Nat} {producer : Producer}
    (found : s.producers[p]? = some producer) (live : producer.stage ≠ .finished) :
    s.monitor.queue.closed = false := by
  rw [h.closed, ← Bool.not_eq_true]
  intro hclosed
  have hempty := CoordinatorStage.hasSeenEmpty_of_hasClosed hclosed
  exact h.not_hasSeenProducer found live (CoordinatorStage.hasSeenProducer_of_hasSeenEmpty hempty p)

/-- Only a closed queue refuses, so no producer is ever refused. -/
theorem not_refused (h : s.Orderly plan) {p pick thread : Nat} {producer : Producer} {item : String}
    {monitor : Monitor String} (found : s.producers[p]? = some producer)
    (live : producer.stage ≠ .finished) :
    s.monitor.act thread pick (.enqueue item) ≠ (some (.index none), monitor) := by
  intro acts
  have hclosed := (Monitor.act_ends acts).effect.of_refused.1
  simp [h.isOpen_of_live found live] at hclosed

/-- A producer goes on. -/
theorem moveProducer (h : s.Orderly plan) {p : Nat} {old new : Producer}
    (found : s.producers[p]? = some old) (born : old.stage ≠ .unborn)
    (live : old.stage ≠ .finished) (born' : new.stage ≠ .unborn) (sound : new.Sound plan p)
    (coordinator : s'.coordinator = s.coordinator)
    (producers : s'.producers = s.producers.set p new) (consumers : s'.consumers = s.consumers)
    (closed : s'.monitor.queue.closed = s.monitor.queue.closed)
    (poisoned : s'.monitor.poisoned = s.monitor.poisoned) : s'.Orderly plan := by
  have hnot := h.not_hasSeenProducer found live
  have hfits : new.Fits plan s.coordinator p := by
    have hhired := (h.producer p old found).hired
    exact ⟨by simpa [born, born'] using hhired, fun hseen ↦ absurd hseen hnot, sound⟩
  refine ⟨?_, ?_, ?_, ?_, ?_, ?_, ?_, poisoned.trans h.unpoisoned⟩
  · rw [producers, List.length_set, h.length_producers]
  · rw [consumers, h.length_consumers]
  · rw [producers, coordinator]
    exact forall_getElem?_set h.producer hfits
  · rw [consumers, coordinator]
    exact h.consumer
  · rw [coordinator]
    exact h.coordinator
  · rw [closed, coordinator]
    exact h.closed
  · rw [coordinator]
    exact fun hempty ↦ absurd (CoordinatorStage.hasSeenProducer_of_hasSeenEmpty hempty p) hnot

/-- A consumer goes on. -/
theorem moveConsumer (h : s.Orderly plan) {c : Nat} {old new : Consumer}
    (found : s.consumers[c]? = some old) (born : old.stage ≠ .unborn)
    (live : old.stage ≠ .finished) (born' : new.stage ≠ .unborn)
    (sound : new.Sound s.coordinator.hasClosed c) (coordinator : s'.coordinator = s.coordinator)
    (producers : s'.producers = s.producers) (consumers : s'.consumers = s.consumers.set c new)
    (closed : s'.monitor.queue.closed = s.monitor.queue.closed)
    (items : s.monitor.queue.items = [] → s'.monitor.queue.items = [])
    (poisoned : s'.monitor.poisoned = s.monitor.poisoned) : s'.Orderly plan := by
  have hfits : new.Fits s.coordinator c := by
    have hold := h.consumer c old found
    exact ⟨by simpa [born, born'] using hold.hired, fun hseen ↦ absurd (hold.seen hseen) live,
      sound⟩
  refine ⟨?_, ?_, ?_, ?_, ?_, ?_, ?_, poisoned.trans h.unpoisoned⟩
  · rw [producers, h.length_producers]
  · rw [consumers, List.length_set, h.length_consumers]
  · rw [producers, coordinator]
    exact h.producer
  · rw [consumers, coordinator]
    exact forall_getElem?_set h.consumer hfits
  · rw [coordinator]
    exact h.coordinator
  · rw [closed, coordinator]
    exact h.closed
  · rw [coordinator]
    exact fun hempty ↦ items (h.emptied hempty)

/-- A coordinator that has seen all producers end is right about each. -/
theorem finished_of_late (h : s.Orderly plan) (late : ∀ p, s.coordinator.HasSeenProducer p)
    {p : Nat} {producer : Producer} (found : s.producers[p]? = some producer) :
    producer.stage = .finished :=
  (h.producer p producer found).seen (late p)

/-- The coordinator goes on, and nobody else. -/
theorem moveCoordinator (h : s.Orderly plan) (producers : s'.producers = s.producers)
    (consumers : s'.consumers = s.consumers)
    (hiredProducer : ∀ p < plan.producers,
      s.coordinator.HasHiredProducer p ↔ s'.coordinator.HasHiredProducer p)
    (hiredConsumer : ∀ c < plan.consumers,
      s.coordinator.HasHiredConsumer c ↔ s'.coordinator.HasHiredConsumer c)
    (seenProducer : ∀ p, ∀ producer : Producer, s.producers[p]? = some producer →
      s'.coordinator.HasSeenProducer p → producer.stage = .finished)
    (seenConsumer : ∀ c, ∀ consumer : Consumer, s.consumers[c]? = some consumer →
      s'.coordinator.HasSeenConsumer c → consumer.stage = .finished)
    (staysClosed : s.coordinator.hasClosed = true → s'.coordinator.hasClosed = true)
    (coordinator : s'.coordinator.Sound)
    (closed : s'.monitor.queue.closed = s'.coordinator.hasClosed)
    (emptied : s'.coordinator.HasSeenEmpty → s'.monitor.queue.items = [])
    (poisoned : s'.monitor.poisoned = s.monitor.poisoned) : s'.Orderly plan := by
  refine ⟨?_, ?_, ?_, ?_, coordinator, closed, emptied, poisoned.trans h.unpoisoned⟩
  · rw [producers, h.length_producers]
  · rw [consumers, h.length_consumers]
  · intro p producer found
    rw [producers] at found
    have hfits := h.producer p producer found
    have hhired := hiredProducer p (h.lt_producers found)
    exact ⟨by rw [hfits.hired, hhired], seenProducer p producer found, hfits.sound⟩
  · intro c consumer found
    rw [consumers] at found
    have hfits := h.consumer c consumer found
    have hhired := hiredConsumer c (h.lt_consumers found)
    exact ⟨by rw [hfits.hired, hhired], seenConsumer c consumer found, hfits.sound.mono staysClosed⟩

/-- The coordinator starts a consumer. -/
theorem hireConsumer (h : s.Orderly plan) {started : Nat} {consumer : Consumer}
    (stage : s.coordinator = .hiringConsumers started)
    (coordinator : s'.coordinator = .hiringConsumers (started + 1))
    (producers : s'.producers = s.producers)
    (consumers : s'.consumers = s.consumers.set started { consumer with stage := .asking })
    (monitor : s'.monitor = s.monitor) : s'.Orderly plan := by
  refine ⟨?_, ?_, ?_, ?_, ?_, ?_, ?_, by rw [monitor, h.unpoisoned]⟩
  · rw [producers, h.length_producers]
  · rw [consumers, List.length_set, h.length_consumers]
  · intro p producer hp
    rw [producers] at hp
    have hfits := h.producer p producer hp
    rw [stage] at hfits
    rw [coordinator]
    exact ⟨hfits.hired, hfits.seen, hfits.sound⟩
  · rw [consumers, coordinator]
    intro c other hc
    rcases eq_or_ne started c with rfl | hne
    · rw [List.getElem?_set_self'] at hc
      obtain ⟨_, -, rfl⟩ := Option.map_eq_some_iff.1 hc
      exact ⟨by simp, by simp, .asking⟩
    · rw [List.getElem?_set_ne hne] at hc
      have hfits := h.consumer c other hc
      rw [stage] at hfits
      refine ⟨?_, hfits.seen, hfits.sound⟩
      rw [hfits.hired, CoordinatorStage.HasHiredConsumer, CoordinatorStage.HasHiredConsumer]
      omega
  · rw [coordinator]
    trivial
  · rw [monitor, h.closed, stage, coordinator]
    rfl
  · rw [coordinator]
    exact False.elim

/-- The coordinator starts a producer. -/
theorem hireProducer (h : s.Orderly plan) {started : Nat} {producer : Producer}
    (stage : s.coordinator = .hiringProducers started)
    (found : s.producers[started]? = some producer)
    (coordinator : s'.coordinator = .hiringProducers (started + 1))
    (producers : s'.producers = s.producers.set started { producer with stage := .ready })
    (consumers : s'.consumers = s.consumers)
    (monitor : s'.monitor = s.monitor) : s'.Orderly plan := by
  refine ⟨?_, ?_, ?_, ?_, ?_, ?_, ?_, by rw [monitor, h.unpoisoned]⟩
  · rw [producers, List.length_set, h.length_producers]
  · rw [consumers, h.length_consumers]
  · rw [producers, coordinator]
    intro p other hp
    rcases eq_or_ne started p with rfl | hne
    · rw [List.getElem?_set_self'] at hp
      obtain ⟨_, -, rfl⟩ := Option.map_eq_some_iff.1 hp
      -- A producer that is started has put nothing yet.
      have hunborn := h.producer_unborn stage found
      have hsound : Producer.Sound plan started { producer with stage := .ready } := by
        have hold := (h.producer started producer found).sound
        cases hold with
        | unborn => exact .ready (Nat.zero_le _)
        | _ => cases hunborn
      exact ⟨by simp, by simp, hsound⟩
    · rw [List.getElem?_set_ne hne] at hp
      have hfits := h.producer p other hp
      rw [stage] at hfits
      refine ⟨?_, hfits.seen, hfits.sound⟩
      rw [hfits.hired, CoordinatorStage.HasHiredProducer, CoordinatorStage.HasHiredProducer]
      omega
  · intro c consumer hc
    rw [consumers] at hc
    have hfits := h.consumer c consumer hc
    rw [stage] at hfits
    rw [coordinator]
    exact ⟨hfits.hired, hfits.seen, hfits.sound⟩
  · rw [coordinator]
    trivial
  · rw [monitor, h.closed, stage, coordinator]
    rfl
  · rw [coordinator]
    exact False.elim

theorem initial (firstId now : Nat) : (State.initial plan firstId now).Orderly plan where
  length_producers := List.length_replicate
  length_consumers := List.length_replicate
  producer p producer hp := by
    obtain rfl := List.eq_of_mem_replicate (List.mem_of_getElem? hp)
    exact ⟨by simp [State.initial, Producer.unborn], by simp [State.initial], .unborn⟩
  consumer c consumer hc := by
    obtain rfl := List.eq_of_mem_replicate (List.mem_of_getElem? hc)
    exact ⟨by simp [State.initial, Consumer.unborn], by simp [State.initial], .unborn⟩
  coordinator := trivial
  closed := rfl
  emptied := False.elim
  unpoisoned := rfl

/-- A consumer that is served at its second look need not wait. -/
theorem ready_of_retake (h : s.Orderly plan) {c : Nat} {result : Result String}
    {monitor : Monitor String} (retakes : s.monitor.retake c = (some result, monitor)) :
    s.monitor.queue.mustWait = false :=
  (Monitor.retake_ends retakes).ready.resolve_right (by simp [h.unpoisoned])

/-- A consumer that need not wait is given none only by a closed queue. -/
theorem given (h : s.Orderly plan) {q : Queue String} {item : Option String}
    (effect : Queue.Effect s.monitor.queue .dequeue (.item item) q)
    (ready : s.monitor.queue.mustWait = false) :
    (item = none → s.coordinator.hasClosed = true) ∧ q.closed = s.monitor.queue.closed ∧
      (s.monitor.queue.items = [] → q.items = []) := by
  rcases effect.of_ready ready with ⟨a, items, hopen, head, rfl, rfl⟩ | ⟨hclosed, rfl, rfl⟩
  · exact ⟨by simp, rfl, by simp [head]⟩
  · exact ⟨fun _ ↦ h.closed ▸ hclosed, rfl, id⟩

theorem step (h : s.Orderly plan) (hstep : s.Step plan action s') : s'.Orderly plan := by
  cases hstep.move with
  | hireConsumer stage => exact h.hireConsumer stage rfl rfl rfl rfl
  | @consumersHired now started stage noneLeft =>
    have hlength := List.getElem?_eq_none_iff.1 noneLeft
    rw [h.length_consumers] at hlength
    apply h.moveCoordinator
    case hiredConsumer =>
      intro c hc
      simpa [stage] using Nat.lt_of_lt_of_le hc hlength
    all_goals simp [stage, h.closed]
  | hireProducer stage found => exact h.hireProducer stage found rfl rfl rfl rfl
  | @producersHired now started stage noneLeft =>
    have hlength := List.getElem?_eq_none_iff.1 noneLeft
    rw [h.length_producers] at hlength
    apply h.moveCoordinator
    case hiredProducer =>
      intro p hp
      simpa [stage] using Nat.lt_of_lt_of_le hp hlength
    all_goals simp [stage, h.closed]
  | @countProducer now ended producer stage found finished =>
    apply h.moveCoordinator
    case seenProducer =>
      intro p other hp hseen
      rcases Nat.lt_succ_iff_lt_or_eq.1 hseen with hlt | rfl
      · exact (h.producer p other hp).seen (by simpa [stage] using hlt)
      · rw [found] at hp
        exact Option.some.inj hp ▸ finished
    all_goals simp [stage, h.closed]
  | @producersEnded now ended stage noneLeft =>
    have hlength := List.getElem?_eq_none_iff.1 noneLeft
    apply h.moveCoordinator
    case seenProducer =>
      intro p producer hp _
      have hlt := (List.getElem?_eq_some_iff.1 hp).1
      exact (h.producer p producer hp).seen (by simpa [stage] using Nat.lt_of_lt_of_le hlt hlength)
    all_goals simp [stage, h.closed]
  | pollInVain stage =>
    apply h.moveCoordinator
    case seenProducer => exact fun p producer hp _ ↦ h.finished_of_late (by simp [stage]) hp
    all_goals simp [stage, h.closed]
  | pollEmpty stage empty =>
    apply h.moveCoordinator
    case seenProducer => exact fun p producer hp _ ↦ h.finished_of_late (by simp [stage]) hp
    all_goals simp [stage, h.closed, empty]
  | stampClosing stage =>
    apply h.moveCoordinator
    case seenProducer => exact fun p producer hp _ ↦ h.finished_of_late (by simp [stage]) hp
    case coordinator => exact ⟨_, rfl⟩
    case emptied => exact fun _ ↦ h.emptied (by simp [stage])
    all_goals simp [stage, h.closed]
  | @close now event discarded monitor stage acts =>
    have hends := Monitor.act_ends (acts 0)
    have hopen : s.monitor.queue.closed = false := by simp [h.closed, stage]
    obtain ⟨-, hqueue⟩ := hends.effect.of_close hopen
    apply h.moveCoordinator
    case seenProducer => exact fun p producer hp _ ↦ h.finished_of_late (by simp [stage]) hp
    case coordinator => simpa [stage] using h.coordinator
    case poisoned => simp [hends.poisoned, Result.interrupted]
    all_goals simp [stage, hqueue]
  | fileClosing stage =>
    apply h.moveCoordinator
    case seenProducer => exact fun p producer hp _ ↦ h.finished_of_late (by simp [stage]) hp
    case emptied => exact fun _ ↦ h.emptied (by simp [stage])
    all_goals simp [stage, h.closed]
  | @countConsumer now ended consumer stage found finished =>
    apply h.moveCoordinator
    case seenProducer => exact fun p producer hp _ ↦ h.finished_of_late (by simp [stage]) hp
    case seenConsumer =>
      intro c other hc hseen
      rcases Nat.lt_succ_iff_lt_or_eq.1 hseen with hlt | rfl
      · exact (h.consumer c other hc).seen (by simpa [stage] using hlt)
      · rw [found] at hc
        exact Option.some.inj hc ▸ finished
    case emptied => exact fun _ ↦ h.emptied (by simp [stage])
    all_goals simp [stage, h.closed]
  | @consumersEnded now ended stage noneLeft =>
    have hlength := List.getElem?_eq_none_iff.1 noneLeft
    apply h.moveCoordinator
    case seenProducer => exact fun p producer hp _ ↦ h.finished_of_late (by simp [stage]) hp
    case seenConsumer =>
      intro c consumer hc _
      have hlt := (List.getElem?_eq_some_iff.1 hc).1
      exact (h.consumer c consumer hc).seen (by simpa [stage] using Nat.lt_of_lt_of_le hlt hlength)
    case emptied => exact fun _ ↦ h.emptied (by simp [stage])
    all_goals simp [stage, h.closed]
  | @put now p pick producer index monitor found ready more acts =>
    have hends := Monitor.act_ends (acts 0)
    obtain ⟨hclosed, -⟩ := hends.effect.of_accepted
    have hsound := (h.producer p producer found).sound
    cases hsound with
    | ready =>
      apply h.moveProducer found (by simp) (by simp) (by simp) (.stamping more)
      case closed => exact hclosed
      case poisoned => simp [hends.poisoned, Result.interrupted]
      all_goals rfl
    | _ => cases ready
  | putInVain found ready more acts => exact absurd (acts 0) (h.not_refused found (by simp [ready]))
  | @endProducer now p pick producer found ready enough =>
    have hsound := (h.producer p producer found).sound
    cases hsound with
    | @ready done hdone =>
      obtain rfl : done = plan.items := Nat.le_antisymm hdone enough
      apply h.moveProducer found (by simp) (by simp) (by simp) .finished <;> rfl
    | _ => cases ready
  | @stampPut now p pick producer index found stamping =>
    have hsound := (h.producer p producer found).sound
    cases hsound with
    | stamping hdone =>
      cases stamping
      apply h.moveProducer found (by simp) (by simp) (by simp) (.filing hdone) <;> rfl
    | _ => cases stamping
  | @filePut now p pick producer event found filing =>
    have hsound := (h.producer p producer found).sound
    cases hsound with
    | filing hdone =>
      apply h.moveProducer found (by simp) (by simp) (by simp) (.ready hdone) <;> rfl
    | _ => cases filing
  | @sleep now c consumer monitor found asking acts =>
    obtain ⟨-, -, rfl⟩ := Monitor.act_sleeps acts
    apply h.moveConsumer found (by simp [asking]) (by simp [asking]) (by simp) .waiting
    case items => exact id
    all_goals rfl
  | @take now c consumer item monitor found asking acts =>
    have hends := Monitor.act_ends acts
    obtain ⟨hitem, hclosed, hitems⟩ := h.given hends.effect (hends.ready rfl)
    apply h.moveConsumer found (by simp [asking]) (by simp [asking]) (by simp) (.stamping hitem)
    case closed => exact hclosed
    case items => exact hitems
    case poisoned => simp [hends.poisoned, Result.interrupted]
    all_goals rfl
  | @sleepAgain now c consumer monitor found waiting signalled retakes =>
    obtain ⟨-, -, rfl⟩ := Monitor.retake_sleeps retakes
    apply h.moveConsumer found (by simp [waiting]) (by simp [waiting]) (by simp) .waiting
    case items => exact id
    all_goals rfl
  | @takeLate now c consumer item monitor found waiting signalled retakes =>
    have hends := Monitor.retake_ends retakes
    obtain ⟨hitem, hclosed, hitems⟩ := h.given hends.effect (h.ready_of_retake retakes)
    apply h.moveConsumer found (by simp [waiting]) (by simp [waiting]) (by simp) (.stamping hitem)
    case closed => exact hclosed
    case items => exact hitems
    case poisoned => exact hends.poisoned
    all_goals rfl
  | @stampTake now c consumer item found stamping =>
    have hsound := (h.consumer c consumer found).sound
    cases hsound with
    | stamping hitem =>
      cases stamping
      apply h.moveConsumer found (by simp) (by simp) (by simp) (.filing hitem)
      case items => exact id
      all_goals rfl
    | _ => cases stamping
  | @fileTake now c consumer event found filing accepted =>
    apply h.moveConsumer found (by simp [filing]) (by simp [filing]) (by simp) .asking
    case items => exact id
    all_goals rfl
  | @endConsumer now c consumer event found filing refused =>
    have hsound := (h.consumer c consumer found).sound
    cases hsound with
    | filing hitem =>
      cases filing
      have hclosed : s.coordinator.hasClosed = true :=
        hitem (by simpa [Event.dequeue] using refused)
      apply h.moveConsumer found (by simp) (by simp) (by simp) (.finished hclosed)
      case items => exact id
      all_goals rfl
    | _ => cases filing
  | @stir now c parked =>
    rw [Monitor.wake_eq parked]
    exact ⟨h.length_producers, h.length_consumers, h.producer, h.consumer, h.coordinator, h.closed,
      h.emptied, h.unpoisoned⟩

end Orderly

theorem orderly_of_reachable (h : Reachable plan s) : s.Orderly plan := by
  induction h with
  | initial firstId now => exact .initial firstId now
  | step _ hstep ih => exact ih.step hstep

end State

end QueueJournal.Demo
