import QueueJournal.Demo.Basic
import QueueJournal.Proofs.Monitor.Section

/-!
# Steps of the demonstration

`State.Step` is one step of one worker, at whatever time the clock shows; a state is reachable if
steps in any order lead to it from the beginning of a demonstration. `State.Move` says what a step
comes to, one rule for each stage of each worker: which of them goes on, and what becomes of the
queue, the journal and the report. Later modules argue by cases on the moves and do not open the
step functions (`Step.move`).
-/

namespace QueueJournal.Demo.State

variable {plan : Plan} {s s' : State} {action : Action}

/-- One step of one worker, at whatever time the clock shows. -/
def Step (plan : Plan) (s : State) (action : Action) (s' : State) : Prop :=
  ∃ now, { s with now }.next? plan action = some s'

/-- A state that steps can lead to from the beginning of a demonstration. -/
inductive Reachable (plan : Plan) : State → Prop where
  /-- Nobody has taken a step. -/
  | initial (firstId now : Nat) : Reachable plan (.initial plan firstId now)
  /-- Somebody takes a step. -/
  | step {s s' : State} {action : Action} (h : Reachable plan s) (hstep : s.Step plan action s') :
    Reachable plan s'

theorem step_of_next? (h : s.next? plan action = some s') : s.Step plan action s' :=
  ⟨s.now, h⟩

/-- Steps that are given one by one lead to a reachable state. -/
theorem Reachable.of_foldlM (h : Reachable plan s) {actions : List Action}
    (hsteps : actions.foldlM (next? plan) s = some s') : Reachable plan s' := by
  induction actions generalizing s with
  | nil =>
    obtain rfl : s = s' := by simpa using hsteps
    exact h
  | cons action actions ih =>
    rw [List.foldlM_cons] at hsteps
    obtain ⟨s₁, hnext, hrest⟩ := Option.bind_eq_some_iff.1 hsteps
    exact ih (h.step (step_of_next? hnext)) hrest

/-- What can be seen of the state after steps that are given one by one is seen of a reachable
state. -/
theorem Reachable.exists_of_foldlM {β : Type} {firstId now : Nat} {actions : List Action}
    {view : State → β} {b : β}
    (h : (actions.foldlM (next? plan) (.initial plan firstId now)).map view = some b) :
    ∃ s, Reachable plan s ∧ view s = b := by
  obtain ⟨s, hsteps, hview⟩ := Option.map_eq_some_iff.1 h
  exact ⟨s, (Reachable.initial firstId now).of_foldlM hsteps, hview⟩

/-! ### What a step comes to -/

/-- What a step comes to. -/
inductive Move (plan : Plan) (s : State) : Action → State → Prop where
  /-- The coordinator starts the next consumer. -/
  | hireConsumer {now started : Nat} {consumer : Consumer}
    (stage : s.coordinator = .hiringConsumers started)
    (found : s.consumers[started]? = some consumer) :
    Move plan s .coordinator { s with
      now
      consumers := s.consumers.set started { consumer with stage := .asking }
      coordinator := .hiringConsumers (started + 1) }
  /-- The coordinator has started all consumers. -/
  | consumersHired {now started : Nat} (stage : s.coordinator = .hiringConsumers started)
    (noneLeft : s.consumers[started]? = none) :
    Move plan s .coordinator { s with now, coordinator := .hiringProducers 0 }
  /-- The coordinator starts the next producer. -/
  | hireProducer {now started : Nat} {producer : Producer}
    (stage : s.coordinator = .hiringProducers started)
    (found : s.producers[started]? = some producer) :
    Move plan s .coordinator { s with
      now
      producers := s.producers.set started { producer with stage := .ready }
      coordinator := .hiringProducers (started + 1) }
  /-- The coordinator has started all producers. -/
  | producersHired {now started : Nat} (stage : s.coordinator = .hiringProducers started)
    (noneLeft : s.producers[started]? = none) :
    Move plan s .coordinator { s with now, coordinator := .awaitingProducers 0 }
  /-- The coordinator sees the next producer end. -/
  | countProducer {now ended : Nat} {producer : Producer}
    (stage : s.coordinator = .awaitingProducers ended)
    (found : s.producers[ended]? = some producer) (finished : producer.stage = .finished) :
    Move plan s .coordinator { s with
      now
      report := { s.report with
        produced := s.report.produced + producer.accepted
        rejected := s.report.rejected + producer.refused }
      coordinator := .awaitingProducers (ended + 1) }
  /-- The coordinator has seen all producers end. -/
  | producersEnded {now ended : Nat} (stage : s.coordinator = .awaitingProducers ended)
    (noneLeft : s.producers[ended]? = none) :
    Move plan s .coordinator { s with now, coordinator := .polling }
  /-- The coordinator sees that there are items in the queue, and will look again. -/
  | pollInVain {now : Nat} (stage : s.coordinator = .polling) (full : s.monitor.queue.items ≠ []) :
    Move plan s .coordinator { s with now }
  /-- The coordinator sees that the queue is empty. -/
  | pollEmpty {now : Nat} (stage : s.coordinator = .polling) (empty : s.monitor.queue.items = []) :
    Move plan s .coordinator { s with now, coordinator := .stamping }
  /-- The coordinator takes the number of the closing event. -/
  | stampClosing {now : Nat} (stage : s.coordinator = .stamping) :
    Move plan s .coordinator { s with
      now
      nextId := s.nextId + 1
      coordinator := .closing (.close ⟨s.nextId, now⟩ coordinatorName) }
  /-- The coordinator closes the queue. -/
  | close {now : Nat} {event : Event String} {discarded : Option Nat} {monitor : Monitor String}
    (stage : s.coordinator = .closing event)
    (acts : ∀ thread, s.monitor.act thread 0 .close = (some (.closed discarded), monitor)) :
    Move plan s .coordinator { s with
      now
      monitor
      coordinator := .filing event
      notices := s.notices ++ (discarded.map .queueClosed).toList }
  /-- The coordinator files the closing event. -/
  | fileClosing {now : Nat} {event : Event String} (stage : s.coordinator = .filing event) :
    Move plan s .coordinator { s with
      now
      journal := s.journal.record event
      coordinator := .awaitingConsumers 0 }
  /-- The coordinator sees the next consumer end. -/
  | countConsumer {now ended : Nat} {consumer : Consumer}
    (stage : s.coordinator = .awaitingConsumers ended)
    (found : s.consumers[ended]? = some consumer) (finished : consumer.stage = .finished) :
    Move plan s .coordinator { s with
      now
      report := { s.report with consumed := s.report.consumed + consumer.consumed }
      coordinator := .awaitingConsumers (ended + 1) }
  /-- The coordinator has seen all consumers end. -/
  | consumersEnded {now ended : Nat} (stage : s.coordinator = .awaitingConsumers ended)
    (noneLeft : s.consumers[ended]? = none) :
    Move plan s .coordinator { s with
      now
      coordinator := .finished
      notices := s.notices ++
        [.demoFinished s.report.produced s.report.rejected s.report.consumed] }
  /-- A producer puts its next item. -/
  | put {now p pick : Nat} {producer : Producer} {index : Nat} {monitor : Monitor String}
    (found : s.producers[p]? = some producer) (ready : producer.stage = .ready)
    (more : producer.done < plan.items)
    (acts : ∀ thread, s.monitor.act thread pick (.enqueue (itemName p (producer.done + 1))) =
      (some (.index (some index)), monitor)) :
    Move plan s (.producer p pick) { s with
      now
      monitor
      producers := s.producers.set p { producer with
        stage := .stamping (some index), accepted := producer.accepted + 1 } }
  /-- A producer's next item is refused. -/
  | putInVain {now p pick : Nat} {producer : Producer} {monitor : Monitor String}
    (found : s.producers[p]? = some producer) (ready : producer.stage = .ready)
    (more : producer.done < plan.items)
    (acts : ∀ thread, s.monitor.act thread pick (.enqueue (itemName p (producer.done + 1))) =
      (some (.index none), monitor)) :
    Move plan s (.producer p pick) { s with
      now
      monitor
      producers := s.producers.set p { producer with
        stage := .stamping none, refused := producer.refused + 1 }
      notices := s.notices ++ [.enqueueRejected] }
  /-- A producer has put all its items, and ends. -/
  | endProducer {now p pick : Nat} {producer : Producer} (found : s.producers[p]? = some producer)
    (ready : producer.stage = .ready) (enough : plan.items ≤ producer.done) :
    Move plan s (.producer p pick) { s with
      now
      producers := s.producers.set p { producer with stage := .finished }
      notices := s.notices ++
        [.producerDone (producerName p) producer.accepted producer.refused] }
  /-- A producer takes the number of its event. -/
  | stampPut {now p pick : Nat} {producer : Producer} {index : Option Nat}
    (found : s.producers[p]? = some producer) (stamping : producer.stage = .stamping index) :
    Move plan s (.producer p pick) { s with
      now
      nextId := s.nextId + 1
      producers := s.producers.set p { producer with
        stage := .filing (.enqueue ⟨s.nextId, now⟩ (producerName p)
          (itemName p (producer.done + 1)) index) } }
  /-- A producer files its event. -/
  | filePut {now p pick : Nat} {producer : Producer} {event : Event String}
    (found : s.producers[p]? = some producer) (filing : producer.stage = .filing event) :
    Move plan s (.producer p pick) { s with
      now
      journal := s.journal.record event
      producers := s.producers.set p { producer with stage := .ready, done := producer.done + 1 } }
  /-- A consumer asks for an item, must wait, and falls asleep. -/
  | sleep {now c : Nat} {consumer : Consumer} {monitor : Monitor String}
    (found : s.consumers[c]? = some consumer) (asking : consumer.stage = .asking)
    (acts : s.monitor.act c 0 .dequeue = (none, monitor)) :
    Move plan s (.consumer c) { s with
      now
      monitor
      consumers := s.consumers.set c { consumer with stage := .waiting } }
  /-- A consumer asks for an item, and is given one or none. -/
  | take {now c : Nat} {consumer : Consumer} {item : Option String} {monitor : Monitor String}
    (found : s.consumers[c]? = some consumer) (asking : consumer.stage = .asking)
    (acts : s.monitor.act c 0 .dequeue = (some (.item item), monitor)) :
    Move plan s (.consumer c) { s with
      now
      monitor
      consumers := s.consumers.set c { consumer with stage := .stamping item } }
  /-- A consumer that was signalled must wait on, and falls asleep again. -/
  | sleepAgain {now c : Nat} {consumer : Consumer} {monitor : Monitor String}
    (found : s.consumers[c]? = some consumer) (waiting : consumer.stage = .waiting)
    (signalled : c ∈ s.monitor.signalled) (retakes : s.monitor.retake c = (none, monitor)) :
    Move plan s (.consumer c) { s with
      now
      monitor
      consumers := s.consumers.set c { consumer with stage := .waiting } }
  /-- A consumer that was signalled is given an item or none. -/
  | takeLate {now c : Nat} {consumer : Consumer} {item : Option String} {monitor : Monitor String}
    (found : s.consumers[c]? = some consumer) (waiting : consumer.stage = .waiting)
    (signalled : c ∈ s.monitor.signalled)
    (retakes : s.monitor.retake c = (some (.item item), monitor)) :
    Move plan s (.consumer c) { s with
      now
      monitor
      consumers := s.consumers.set c { consumer with stage := .stamping item } }
  /-- A consumer takes the number of its event. -/
  | stampTake {now c : Nat} {consumer : Consumer} {item : Option String}
    (found : s.consumers[c]? = some consumer) (stamping : consumer.stage = .stamping item) :
    Move plan s (.consumer c) { s with
      now
      nextId := s.nextId + 1
      consumers := s.consumers.set c { consumer with
        stage := .filing (.dequeue ⟨s.nextId, now⟩ (consumerName c) item) } }
  /-- A consumer files the event of an item. -/
  | fileTake {now c : Nat} {consumer : Consumer} {event : Event String}
    (found : s.consumers[c]? = some consumer) (filing : consumer.stage = .filing event)
    (accepted : event.accepted = true) :
    Move plan s (.consumer c) { s with
      now
      journal := s.journal.record event
      consumers := s.consumers.set c { stage := .asking, consumed := consumer.consumed + 1 } }
  /-- A consumer files the event of having been given none, and ends. -/
  | endConsumer {now c : Nat} {consumer : Consumer} {event : Event String}
    (found : s.consumers[c]? = some consumer) (filing : consumer.stage = .filing event)
    (refused : event.accepted = false) :
    Move plan s (.consumer c) { s with
      now
      journal := s.journal.record event
      consumers := s.consumers.set c { consumer with stage := .finished }
      notices := s.notices ++ [.consumerDone (consumerName c) consumer.consumed] }
  /-- A sleeping consumer wakes for no reason. -/
  | stir {now c : Nat} (parked : c ∈ s.monitor.parked) :
    Move plan s (.stir c) { s with now, monitor := s.monitor.wake c }

/-- A step of the coordinator is one of the moves. -/
theorem move_of_coordinatorStep? {now : Nat} (h : { s with now }.coordinatorStep? = some s') :
    Move plan s .coordinator s' := by
  unfold coordinatorStep? at h
  split at h
  case h_1 started stage =>
    split at h <;> cases h
    case h_1 noneLeft => exact .consumersHired stage noneLeft
    case h_2 found => exact .hireConsumer stage found
  case h_2 started stage =>
    split at h <;> cases h
    case h_1 noneLeft => exact .producersHired stage noneLeft
    case h_2 found => exact .hireProducer stage found
  case h_3 ended stage =>
    split at h
    case h_1 noneLeft =>
      cases h
      exact .producersEnded stage noneLeft
    case h_2 found =>
      split at h <;> cases h
      case h_1 finished => exact .countProducer stage found finished
  case h_4 stage =>
    rw [Monitor.look_eq] at h
    dsimp only at h
    split at h <;> cases h
    case isTrue empty => exact .pollEmpty stage (by simpa [Queue.isEmpty] using empty)
    case isFalse full => exact .pollInVain stage (by simpa [Queue.isEmpty] using full)
  case h_5 stage =>
    cases h
    exact .stampClosing stage
  case h_6 event stage =>
    cases h
    rcases hclose : s.monitor.close with ⟨_ | discarded, monitor⟩
    · have hmove := @Move.close plan s now event none monitor stage
        fun thread ↦ by rw [Monitor.act, hclose]
      simpa [closeQueue, hclose, goTo] using hmove
    · have hmove := @Move.close plan s now event (some discarded) monitor stage
        fun thread ↦ by rw [Monitor.act, hclose]
      simpa [closeQueue, hclose, goTo, notify] using hmove
  case h_7 event stage =>
    cases h
    exact .fileClosing stage
  case h_8 ended stage =>
    split at h
    case h_1 noneLeft =>
      cases h
      exact .consumersEnded stage noneLeft
    case h_2 found =>
      split at h <;> cases h
      case h_1 finished => exact .countConsumer stage found finished
  case h_9 => cases h

/-- A step of a producer is one of the moves. -/
theorem move_of_producerStep? {now p pick : Nat} {producer : Producer}
    (found : s.producers[p]? = some producer)
    (h : { s with now }.producerStep? plan p pick producer = some s') :
    Move plan s (.producer p pick) s' := by
  unfold producerStep? at h
  split at h
  case h_1 => cases h
  case h_2 => cases h
  case h_3 ready =>
    split at h
    case isTrue more =>
      rcases hput : s.monitor.enqueue (itemName p (producer.done + 1)) pick with
        ⟨_ | index, monitor⟩
      · have hmove := @Move.putInVain plan s now p pick producer monitor found ready more
          fun thread ↦ by rw [Monitor.act, hput]
        simp only [hput] at h
        cases h
        exact hmove
      · have hmove := @Move.put plan s now p pick producer index monitor found ready more
          fun thread ↦ by rw [Monitor.act, hput]
        simp only [hput] at h
        cases h
        exact hmove
    case isFalse enough =>
      cases h
      exact .endProducer found ready (Nat.le_of_not_lt enough)
  case h_4 index stamping =>
    cases h
    exact .stampPut found stamping
  case h_5 event filing =>
    cases h
    exact .filePut found filing

/-- A step of a consumer is one of the moves. -/
theorem move_of_consumerStep? {now c : Nat} {consumer : Consumer}
    (found : s.consumers[c]? = some consumer)
    (h : { s with now }.consumerStep? c consumer = some s') : Move plan s (.consumer c) s' := by
  unfold consumerStep? at h
  split at h
  case h_1 => cases h
  case h_2 => cases h
  case h_3 asking =>
    cases h
    rcases hturn : s.monitor.dequeue c with ⟨_ | item, monitor⟩
    · have hmove := @Move.sleep plan s now c consumer monitor found asking
        (by rw [Monitor.act, hturn]; rfl)
      simpa only [hturn, afterTurn, setConsumer] using hmove
    · have hmove := @Move.take plan s now c consumer item monitor found asking
        (by rw [Monitor.act, hturn]; rfl)
      simpa only [hturn, afterTurn, setConsumer] using hmove
  case h_4 waiting =>
    split at h <;> cases h
    case isTrue signalled =>
      rcases hturn : s.monitor.resume c with ⟨_ | item, monitor⟩
      · have hmove := @Move.sleepAgain plan s now c consumer monitor found waiting signalled
          (by rw [Monitor.retake, hturn]; rfl)
        simpa only [hturn, afterTurn, setConsumer] using hmove
      · have hmove := @Move.takeLate plan s now c consumer item monitor found waiting signalled
          (by rw [Monitor.retake, hturn]; rfl)
        simpa only [hturn, afterTurn, setConsumer] using hmove
  case h_5 item stamping =>
    cases h
    exact .stampTake found stamping
  case h_6 event filing =>
    split at h <;> cases h
    case isTrue accepted => exact .fileTake found filing accepted
    case isFalse refused => exact .endConsumer found filing (Bool.eq_false_iff.2 refused)

/-- **Every step is one of these moves.** -/
theorem Step.move (h : s.Step plan action s') : Move plan s action s' := by
  obtain ⟨now, hnext⟩ := h
  cases action with
  | coordinator => exact move_of_coordinatorStep? hnext
  | producer p pick =>
    obtain ⟨producer, found, hnext⟩ := Option.bind_eq_some_iff.1 hnext
    exact move_of_producerStep? found hnext
  | consumer c =>
    obtain ⟨consumer, found, hnext⟩ := Option.bind_eq_some_iff.1 hnext
    exact move_of_consumerStep? found hnext
  | stir c =>
    obtain ⟨parked, hnext⟩ := Option.ite_none_right_eq_some.1 hnext
    obtain rfl := Option.some.inj hnext
    exact .stir parked

end QueueJournal.Demo.State
