import QueueJournal.Journal.Basic
import QueueJournal.Monitor
import QueueJournal.Notice

/-!
# The demonstration

Producers put items into one queue, consumers take them out until the queue is closed, and everybody
records what was done in one journal. A coordinator starts the consumers and the producers, waits
for the producers one by one, waits until the queue is empty, closes it, and waits for the
consumers.

A worker calls the queue, takes the number of its event and files the event in the journal in three
steps, and steps of different workers come in any order. The coordinator takes the number of the
closing event before it closes the queue, so that every final event of a consumer has a greater one.

`State.next?` says which steps there are, and `State.work` counts down with each of them, a poll of
a queue that is not empty and a waking for no reason apart.
-/

namespace QueueJournal.Demo

/-- The size of a demonstration. -/
structure Plan where
  /-- How many producers there are. -/
  producers : Nat
  /-- How many consumers there are. -/
  consumers : Nat
  /-- How many items each producer puts. -/
  items : Nat
deriving DecidableEq, Repr

/-! ### Names -/

/-- The name under which the coordinator records. -/
def coordinatorName : String := "coordinator"

/-- The name of a producer. -/
def producerName (p : Nat) : String :=
  String.ofList ("producer-".toList ++ Text.decimal p)

/-- The name of a consumer. -/
def consumerName (c : Nat) : String :=
  String.ofList ("consumer-".toList ++ Text.decimal c)

/-- The item that a producer puts as its `n`-th. -/
def itemName (p n : Nat) : String :=
  producerName p ++ String.ofList ("-item ".toList ++ Text.decimal n)

/-! ### Workers -/

/-- Where a producer stands. -/
inductive ProducerStage where
  /-- It has not been started. -/
  | unborn
  /-- It is about to put its next item, or to end. -/
  | ready
  /-- It has put an item, at an index unless it was refused, and has no number for the event. -/
  | stamping (index : Option Nat)
  /-- It is about to file an event. -/
  | filing (event : Event String)
  /-- It has ended. -/
  | finished

/-- A producer. -/
structure Producer where
  /-- Where it stands. -/
  stage : ProducerStage
  /-- How many items it has put and recorded. -/
  done : Nat
  /-- How many of its items the queue took. -/
  accepted : Nat
  /-- How many of its items the queue refused. -/
  refused : Nat

/-- A producer that has not been started. -/
def Producer.unborn : Producer := ⟨.unborn, 0, 0, 0⟩

/-- Where a consumer stands. -/
inductive ConsumerStage where
  /-- It has not been started. -/
  | unborn
  /-- It is about to ask for an item. -/
  | asking
  /-- It sleeps, or has been signalled and has not had the lock since. -/
  | waiting
  /-- It has been given an item, or none, and has no number for the event. -/
  | stamping (item : Option String)
  /-- It is about to file an event. -/
  | filing (event : Event String)
  /-- It has ended. -/
  | finished

/-- A consumer. -/
structure Consumer where
  /-- Where it stands. -/
  stage : ConsumerStage
  /-- How many items it has taken and recorded. -/
  consumed : Nat

/-- A consumer that has not been started. -/
def Consumer.unborn : Consumer := ⟨.unborn, 0⟩

/-- Where the coordinator stands. -/
inductive CoordinatorStage where
  /-- It has started so many consumers. -/
  | hiringConsumers (started : Nat)
  /-- It has started so many producers. -/
  | hiringProducers (started : Nat)
  /-- It has seen so many producers end. -/
  | awaitingProducers (ended : Nat)
  /-- It is about to look whether the queue is empty. -/
  | polling
  /-- It has seen the queue empty and has no number for the closing event. -/
  | stamping
  /-- It is about to close the queue. -/
  | closing (event : Event String)
  /-- It is about to file the closing event. -/
  | filing (event : Event String)
  /-- It has seen so many consumers end. -/
  | awaitingConsumers (ended : Nat)
  /-- The demonstration is over. -/
  | finished

/-- What a demonstration comes to. -/
structure Report where
  /-- How many items the queue took. -/
  produced : Nat
  /-- How many items the queue refused. -/
  rejected : Nat
  /-- How many items were taken out. -/
  consumed : Nat
deriving DecidableEq, Repr

/-- A demonstration under way. -/
structure State where
  /-- The queue, with the consumers that wait for its items; a consumer waits under its number. -/
  monitor : Monitor String
  /-- The journal. -/
  journal : Journal String
  /-- The number of the next event. -/
  nextId : Nat
  /-- The time that events are stamped with. -/
  now : Nat
  /-- Where the coordinator stands. -/
  coordinator : CoordinatorStage
  /-- The producers. -/
  producers : List Producer
  /-- The consumers. -/
  consumers : List Consumer
  /-- The sums over the workers that the coordinator has seen end. -/
  report : Report
  /-- What has been reported. -/
  notices : List Notice

/-- Whose step it is. -/
inductive Action where
  /-- The coordinator's. -/
  | coordinator
  /-- A producer's; an item that it puts signals the sleeping consumer at position `pick`. -/
  | producer (p : Nat) (pick : Nat)
  /-- A consumer's. -/
  | consumer (c : Nat)
  /-- A sleeping consumer wakes for no reason. -/
  | stir (c : Nat)
deriving DecidableEq, Repr

namespace State

/-- The beginning of a demonstration, whose events are numbered from `firstId` on. -/
def initial (plan : Plan) (firstId now : Nat) : State where
  monitor := .empty
  journal := .empty
  nextId := firstId
  now := now
  coordinator := .hiringConsumers 0
  producers := List.replicate plan.producers .unborn
  consumers := List.replicate plan.consumers .unborn
  report := ⟨0, 0, 0⟩
  notices := [.demoStarting plan.producers plan.consumers plan.items]

/-! ### Parts of a step -/

/-- The stamp of the next event. -/
def stamp (s : State) : Stamp := ⟨s.nextId, s.now⟩

/-- The number of the next event has been taken. -/
def stamped (s : State) : State :=
  { s with nextId := s.nextId + 1 }

/-- Files an event. -/
def file (s : State) (event : Event String) : State :=
  { s with journal := s.journal.record event }

/-- Reports something. -/
def notify (s : State) (notice : Notice) : State :=
  { s with notices := s.notices ++ [notice] }

/-- Puts a producer in its place. -/
def setProducer (s : State) (p : Nat) (producer : Producer) : State :=
  { s with producers := s.producers.set p producer }

/-- Puts a consumer in its place. -/
def setConsumer (s : State) (c : Nat) (consumer : Consumer) : State :=
  { s with consumers := s.consumers.set c consumer }

/-- Puts the coordinator where it goes. -/
def goTo (s : State) (stage : CoordinatorStage) : State :=
  { s with coordinator := stage }

/-! ### Steps of the producers -/

/-- The step of a producer. -/
def producerStep? (plan : Plan) (s : State) (p pick : Nat) (producer : Producer) : Option State :=
  match producer.stage with
  | .unborn | .finished => none
  | .ready =>
    if producer.done < plan.items then
      let (index, monitor) := s.monitor.enqueue (itemName p (producer.done + 1)) pick
      let producer :=
        if index.isSome then { producer with accepted := producer.accepted + 1 }
        else { producer with refused := producer.refused + 1 }
      let s := { s with monitor }.setProducer p { producer with stage := .stamping index }
      some (if index.isSome then s else s.notify .enqueueRejected)
    else
      let s := s.setProducer p { producer with stage := .finished }
      some (s.notify (.producerDone (producerName p) producer.accepted producer.refused))
  | .stamping index =>
    let event := Event.enqueue s.stamp (producerName p) (itemName p (producer.done + 1)) index
    some (s.stamped.setProducer p { producer with stage := .filing event })
  | .filing event =>
    some ((s.file event).setProducer p { producer with stage := .ready, done := producer.done + 1 })

/-! ### Steps of the consumers -/

/-- A consumer leaves a critical section of the queue. -/
def afterTurn (s : State) (c : Nat) (consumer : Consumer) : Turn String × Monitor String → State
  | (.parks, monitor) => { s with monitor }.setConsumer c { consumer with stage := .waiting }
  | (.returns item, monitor) =>
    { s with monitor }.setConsumer c { consumer with stage := .stamping item }

/-- The step of a consumer. -/
def consumerStep? (s : State) (c : Nat) (consumer : Consumer) : Option State :=
  match consumer.stage with
  | .unborn | .finished => none
  | .asking => some (s.afterTurn c consumer (s.monitor.dequeue c))
  | .waiting =>
    if c ∈ s.monitor.signalled then some (s.afterTurn c consumer (s.monitor.resume c)) else none
  | .stamping item =>
    let event := Event.dequeue s.stamp (consumerName c) item
    some (s.stamped.setConsumer c { consumer with stage := .filing event })
  | .filing event =>
    let s := s.file event
    if event.accepted then
      some (s.setConsumer c { stage := .asking, consumed := consumer.consumed + 1 })
    else
      let s := s.setConsumer c { consumer with stage := .finished }
      some (s.notify (.consumerDone (consumerName c) consumer.consumed))

/-! ### Steps of the coordinator -/

/-- The coordinator has seen a producer end. -/
def countProducer (s : State) (producer : Producer) : State :=
  { s with report := { s.report with
      produced := s.report.produced + producer.accepted
      rejected := s.report.rejected + producer.refused } }

/-- The coordinator has seen a consumer end. -/
def countConsumer (s : State) (consumer : Consumer) : State :=
  { s with report := { s.report with consumed := s.report.consumed + consumer.consumed } }

/-- The coordinator closes the queue. -/
def closeQueue (s : State) : State :=
  match s.monitor.close with
  | (none, monitor) => { s with monitor }
  | (some discarded, monitor) => { s with monitor }.notify (.queueClosed discarded)

/-- The step of the coordinator. -/
def coordinatorStep? (s : State) : Option State :=
  match s.coordinator with
  | .hiringConsumers started =>
    match s.consumers[started]? with
    | none => some (s.goTo (.hiringProducers 0))
    | some consumer =>
      some ((s.setConsumer started { consumer with stage := .asking }).goTo
        (.hiringConsumers (started + 1)))
  | .hiringProducers started =>
    match s.producers[started]? with
    | none => some (s.goTo (.awaitingProducers 0))
    | some producer =>
      some ((s.setProducer started { producer with stage := .ready }).goTo
        (.hiringProducers (started + 1)))
  | .awaitingProducers ended =>
    match s.producers[ended]? with
    | none => some (s.goTo .polling)
    | some producer =>
      match producer.stage with
      | .finished => some ((s.countProducer producer).goTo (.awaitingProducers (ended + 1)))
      | _ => none
  | .polling =>
    let (empty, monitor) := s.monitor.look Queue.isEmpty
    let s := { s with monitor }
    some (if empty then s.goTo .stamping else s)
  | .stamping => some (s.stamped.goTo (.closing (.close s.stamp coordinatorName)))
  | .closing event => some (s.closeQueue.goTo (.filing event))
  | .filing event => some ((s.file event).goTo (.awaitingConsumers 0))
  | .awaitingConsumers ended =>
    match s.consumers[ended]? with
    | none =>
      let r := s.report
      some ((s.goTo .finished).notify (.demoFinished r.produced r.rejected r.consumed))
    | some consumer =>
      match consumer.stage with
      | .finished => some ((s.countConsumer consumer).goTo (.awaitingConsumers (ended + 1)))
      | _ => none
  | .finished => none

/-! ### All steps -/

/-- The state after a step, if the step can be taken. -/
def next? (plan : Plan) (s : State) : Action → Option State
  | .coordinator => s.coordinatorStep?
  | .producer p pick => s.producers[p]?.bind (s.producerStep? plan p pick)
  | .consumer c => s.consumers[c]?.bind (s.consumerStep? c)
  | .stir c => if c ∈ s.monitor.parked then some { s with monitor := s.monitor.wake c } else none

/-- Whether a step brings the demonstration further: not a look at a queue that is not empty, and
not a waking for no reason. -/
def isProgress (s : State) : Action → Bool
  | .coordinator =>
    match s.coordinator with
    | .polling => s.monitor.queue.isEmpty
    | _ => true
  | .stir _ => false
  | _ => true

/-- Whether the demonstration is over. -/
def isFinished (s : State) : Bool :=
  match s.coordinator with
  | .finished => true
  | _ => false

/-! ### The work that is left -/

/-- The work that a producer has before it: seven steps' worth for each item, which pay for the
producer's three and for what the item costs others. -/
def producerWork (plan : Plan) (producer : Producer) : Nat :=
  match producer.stage with
  | .unborn => 7 * plan.items + 2
  | .ready => 7 * (plan.items - producer.done) + 1
  | .stamping _ => 7 * (plan.items - producer.done - 1) + 3
  | .filing _ => 7 * (plan.items - producer.done - 1) + 2
  | .finished => 0

/-- The work that a consumer has before it until it rests. -/
def consumerWork (consumer : Consumer) : Nat :=
  match consumer.stage with
  | .unborn => 5
  | .asking => 4
  | .waiting => 3
  | .stamping item => if item.isSome then 6 else 2
  | .filing event => if event.accepted then 5 else 1
  | .finished => 0

/-- The work that the coordinator has before it, with what closing the queue costs the consumers. -/
def coordinatorWork (plan : Plan) : CoordinatorStage → Nat
  | .hiringConsumers started => 2 * plan.consumers + 2 * plan.producers + 8 +
      (plan.consumers - started)
  | .hiringProducers started => 2 * plan.consumers + plan.producers + 7 +
      (plan.producers - started)
  | .awaitingProducers ended => 2 * plan.consumers + 6 + (plan.producers - ended)
  | .polling => 2 * plan.consumers + 5
  | .stamping => 2 * plan.consumers + 4
  | .closing _ => 2 * plan.consumers + 3
  | .filing _ => plan.consumers + 2
  | .awaitingConsumers ended => plan.consumers - ended + 1
  | .finished => 0

/-- The work of all workers of one kind. -/
def totalWork {ω : Type} (workOf : ω → Nat) : List ω → Nat
  | [] => 0
  | worker :: workers => workOf worker + totalWork workOf workers

/-- The work that is left: that of everybody, three for each item in the queue, and one for each
consumer that has been signalled. -/
def work (plan : Plan) (s : State) : Nat :=
  coordinatorWork plan s.coordinator + totalWork (producerWork plan) s.producers +
    totalWork consumerWork s.consumers + 3 * s.monitor.queue.length + s.monitor.signalled.length

end State

end QueueJournal.Demo
