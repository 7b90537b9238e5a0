import QueueJournal.Demo.Basic

/-!
# Auditing the journal of a demonstration

What the journal of a demonstration says about it: what every producer put, how often every consumer
came back with nothing, what else was recorded, whether the items of each producer were taken in
their order, and whether the events are of the shape and numbered in the way that a demonstration
leaves behind. Nothing here depends on the order in which workers took their steps.
-/

namespace QueueJournal.Journal

/-- The events that put an item. -/
def enqueues (j : Journal String) : List (Event String) :=
  j.entries.filter fun e ↦ e.operation == .enqueue

/-- The events that took an item or found none. -/
def dequeues (j : Journal String) : List (Event String) :=
  j.entries.filter fun e ↦ e.operation == .dequeue

/-- The workers of events, each once. -/
def workersOf (events : List (Event String)) : List String :=
  (events.map Event.worker).eraseDups

/-- For every operation that occurs, how many of its events were accepted and how many were not. -/
def counts (j : Journal String) : List (Operation × Nat × Nat) :=
  Operation.all.filterMap fun op ↦
    let events := j.entries.filter fun e ↦ e.operation == op
    let accepted := events.countP Event.accepted
    if events.isEmpty then none else some (op, accepted, events.length - accepted)

/-- What every producer put, and whether the queue took it. -/
def produced (j : Journal String) : List (String × List (Option String × Bool)) :=
  (workersOf j.enqueues).map fun worker ↦
    let events := j.enqueues.filter fun e ↦ e.worker == worker
    (worker, events.map fun e ↦ (e.item, e.accepted))

/-- How often every consumer came back with nothing. -/
def exits (j : Journal String) : List (String × Nat) :=
  (workersOf j.dequeues).map fun worker ↦
    (worker, j.dequeues.countP fun e ↦ e.worker == worker && !e.accepted)

/-- The events that neither put nor took an item. -/
def others (j : Journal String) : List (Event String) :=
  j.entries.filter fun e ↦ e.operation != .enqueue && e.operation != .dequeue

/-- The items that were taken, in increasing order. -/
def consumedItems (j : Journal String) : List String :=
  (j.dequeues.filterMap Event.item).mergeSort fun a b ↦ !(b < a)

/-! ### Order of the items -/

/-- What stands between a producer and the number of an item. -/
def itemMark : List Char := "-item ".toList

/-- The producer and the number that the name of an item is made of. -/
def splitItem? : List Char → Option (List Char × Nat)
  | [] => none
  | c :: s =>
    if itemMark.isPrefixOf (c :: s) then
      let digits := (c :: s).drop itemMark.length
      if digits.isEmpty || !digits.all Char.isDigit then none
      else some ([], Text.decimalValue digits)
    else (splitItem? s).map fun (producer, n) ↦ (c :: producer, n)

/-- Whether the numbers of each producer's items increase along the events of one consumer, where
`last` holds the latest numbers. A dequeue without an item begins a new count. -/
def isInOrder (last : List (List Char × Nat)) : List (Event String) → Bool
  | [] => true
  | e :: events =>
    if !e.accepted then isInOrder [] events
    else
      match e.item.bind fun item ↦ splitItem? item.toList with
      | none => isInOrder last events
      | some (producer, n) =>
        (last.lookup producer).all (· < n) && isInOrder ((producer, n) :: last) events

/-- Whether every consumer took the items of each producer in their order. -/
def takesInOrder (j : Journal String) : Bool :=
  (workersOf j.dequeues).all fun worker ↦
    isInOrder [] (j.dequeues.filter fun e ↦ e.worker == worker)

/-- Whether the last event of every consumer is a dequeue without an item. -/
def endsWithExits (j : Journal String) : Bool :=
  (workersOf j.dequeues).all fun worker ↦
    match (j.entriesOf worker).getLast? with
    | none => true
    | some e => e.operation == .dequeue && !e.accepted

/-! ### Shape of the events -/

/-- Whether an event has the parts that its operation and its result call for. -/
def isShapely (e : Event String) : Bool :=
  e.size.isNone && 0 < e.atMicros &&
    match e.operation with
    | .enqueue => e.index.isSome == e.accepted
    | .dequeue => e.index.isNone && e.item.isSome == e.accepted
    | _ => true

/-- Whether all events have the parts that they should. -/
def isWellShaped (j : Journal String) : Bool :=
  j.entries.all isShapely

/-! ### Numbers of the events -/

/-- The numbers of the events. -/
def ids (j : Journal String) : List Nat :=
  j.entries.map Event.id

/-- Whether no number occurs twice. -/
def idsAreUnique (j : Journal String) : Bool :=
  j.ids.eraseDups.length == j.ids.length

/-- How many numbers lie between the least and the greatest, both counted. -/
def idSpan (j : Journal String) : Nat :=
  match j.ids.min?, j.ids.max? with
  | some low, some high => high - low + 1
  | _, _ => 0

/-- Whether numbers increase. -/
def isIncreasing : List Nat → Bool
  | [] => true
  | [_] => true
  | a :: b :: rest => a < b && isIncreasing (b :: rest)

/-- Whether the numbers of every worker's events increase. -/
def idsIncrease (j : Journal String) : Bool :=
  (workersOf j.entries).all fun worker ↦ isIncreasing ((j.entriesOf worker).map Event.id)

/-- Whether the closing event has a smaller number than every dequeue without an item. -/
def closesBeforeExits (j : Journal String) : Bool :=
  let closes := j.entries.filter fun e ↦ e.operation == .close
  closes.all fun close ↦ j.dequeues.all fun e ↦ e.accepted || close.id < e.id

end QueueJournal.Journal
