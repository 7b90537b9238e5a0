import QueueJournal.Journal.Append
import QueueJournal.Monitor
import QueueJournal.Queue.Iterate
import QueueJournal.Session.Command

/-!
# Running a session

Commands are carried out one after the other. A command that wakes waiting threads lets them run to
their next rest before it is answered, so a thread waits only while the queue is empty and open.
-/

namespace QueueJournal

/-- A session between two commands, or in the middle of one. -/
structure Session (α : Type) where
  /-- The queue and the threads that wait for its items. -/
  monitor : Monitor α
  /-- The journal. -/
  journal : Journal α
  /-- How many events have been built. -/
  built : Nat
  /-- How many threads have been started. -/
  threads : Nat
  /-- The files. -/
  storage : Storage
  /-- What has been reported since the command began. -/
  notices : List Notice
  /-- What waiting threads have been given since the command began. -/
  delivered : List (Option α)

namespace Session

variable {α : Type}

/-- A session with an open queue, an empty journal and an empty directory. -/
def fresh : Session α where
  monitor := .empty
  journal := .empty
  built := 0
  threads := 0
  storage := .fresh
  notices := []
  delivered := []

/-- The queue. -/
def queue (s : Session α) : Queue α :=
  s.monitor.queue

/-- Reports something. -/
def notify (s : Session α) (notice : Notice) : Session α :=
  { s with notices := s.notices ++ [notice] }

/-! ### Recording -/

/-- The stamp of the next event. -/
def stamp (s : Session α) (recorder : Recorder) : Stamp where
  id := recorder.id.getD (s.built + 1)
  atMicros := recorder.atMicros.getD 0

/-- Builds an event and records it. -/
def build (s : Session α) (recorder : Recorder) (worker : String) (account : Account α) :
    Event α × Session α :=
  let event := account.event (s.stamp recorder) worker
  (event, { s with built := s.built + 1, journal := s.journal.record event })

/-- Records an operation if the recorder has a worker. -/
def record (s : Session α) (recorder : Recorder) (account : Account α) : Session α :=
  match recorder.worker with
  | none => s
  | some worker => (s.build recorder worker account).2

/-! ### The queue and its threads -/

/-- Runs an operation of the queue that neither waits nor signals. -/
def onQueue {β : Type} (s : Session α) (f : Queue α → β × Queue α) : β × Session α :=
  let (b, monitor) := s.monitor.onQueue f
  (b, { s with monitor })

/-- Looks at the queue. -/
def look {β : Type} (s : Session α) (f : Queue α → β) : β × Session α :=
  let (b, monitor) := s.monitor.look f
  (b, { s with monitor })

/-- Removes the item at an index. -/
def removeAt (s : Session α) (index : Nat) : Except Queue.OutOfRange Nat × Session α :=
  let (outcome, monitor) := s.monitor.removeAt index
  (outcome, { s with monitor })

/-- Puts an item. -/
def put [Item α] (s : Session α) (a : α) : Option Nat × Session α :=
  match s.monitor.enqueue a 0 with
  | (none, monitor) => (none, { s with monitor }.notify .enqueueRejected)
  | (some index, monitor) => (some index, { s with monitor })

/-- Puts items one after the other. -/
def putAll [Item α] (s : Session α) : List α → List (Option Nat) × Session α
  | [] => ([], s)
  | a :: items =>
    let (index, s) := s.put a
    let (indices, s) := s.putAll items
    (index :: indices, s)

/-- Closes the queue. -/
def shut (s : Session α) : Session α :=
  match s.monitor.close with
  | (none, monitor) => { s with monitor }
  | (some discarded, monitor) => { s with monitor }.notify (.queueClosed discarded)

/-- Lets the threads run that have been woken. -/
def deliver (s : Session α) : List (Nat × Option α) × Session α :=
  let (answers, monitor) := s.monitor.deliver
  (answers, { s with monitor })

/-- Asks for an item in a new thread. -/
def startDequeue (s : Session α) : Turn α × Session α :=
  let (turn, monitor) := s.monitor.dequeue s.threads
  (turn, { s with monitor, threads := s.threads + 1 })

/-! ### Collecting threads -/

/-- Items that collecting threads have received, in the order of time. -/
abbrev Received (α : Type) := List (Nat × α)

/-- A collecting thread takes what there is and then waits, unless the queue is closed. -/
def collect (s : Session α) (thread : Nat) : Received α × Session α :=
  let (items, s) := s.onQueue Queue.drainAll
  let (_, monitor) := s.monitor.dequeue thread
  (items.map (thread, ·), { s with monitor })

/-- Starts collecting threads. -/
def startCollecting (s : Session α) : Nat → Received α × Session α
  | 0 => ([], s)
  | count + 1 =>
    let (first, s) := { s with threads := s.threads + 1 }.collect s.threads
    let (more, s) := s.startCollecting count
    (first ++ more, s)

/-- Hands on what woken threads have taken: a collecting thread, numbered from `first` on, keeps its
item and goes on collecting; what other threads have taken is delivered. -/
def handOn (first : Nat) (s : Session α) : List (Nat × Option α) → Received α × Session α
  | [] => ([], s)
  | (thread, answer) :: answers =>
    if thread < first then { s with delivered := s.delivered ++ [answer] }.handOn first answers
    else
      match answer with
      | none => s.handOn first answers
      | some a =>
        let (now, s) := s.collect thread
        let (later, s) := s.handOn first answers
        ((thread, a) :: now ++ later, s)

/-- Puts items one after the other and lets the woken threads run after each. Gives how many were
put and what the collecting threads received. -/
def feed [Item α] (first : Nat) (s : Session α) : List α → Nat × Received α × Session α
  | [] => (0, [], s)
  | a :: items =>
    let (index, s) := s.put a
    let (answers, s) := s.deliver
    let (now, s) := s.handOn first answers
    let (accepted, later, s) := s.feed first items
    (accepted + index.toList.length, now ++ later, s)

/-- Collects all items in several threads while others are put, and then closes the queue. -/
def gather [Item α] (s : Session α) (items : List α) (consumers : Nat) :
    Nat × Received α × Session α :=
  let first := s.threads
  let (before, s) := s.startCollecting consumers
  let (accepted, during, s) := s.feed first items
  let (answers, s) := s.shut.deliver
  let (after, s) := s.handOn first answers
  (accepted, before ++ during ++ after, s)

/-- Whether items occur in a list in this order. -/
def isSubsequence [Item α] : List α → List α → Bool
  | [], _ => true
  | _ :: _, [] => false
  | a :: items, b :: list =>
    if Item.same a b then isSubsequence items list else isSubsequence (a :: items) list

/-- Whether every thread has seen the items of every batch in order. -/
def inOrder [Item α] (batches : List (List α)) (received : Received α) : Bool :=
  received.all fun (thread, _) ↦
    batches.all fun batch ↦
      let seen := (received.filter fun (t, _) ↦ t == thread).map Prod.snd
      isSubsequence (seen.filter fun a ↦ batch.any (Item.same a)) batch

/-! ### Commands -/

/-- Appends the journal to a file. -/
def append [Item α] (s : Session α) (path : String) : Except Problem (Reply α) × Session α :=
  match s.journal.append s.storage (s.storage.absolute path) with
  | (.error failure, storage) => (.error (.failure failure), { s with storage })
  | (.ok lines, storage) => (.ok (.count lines), { s with storage }.notify (.journalAppended lines))

/-- Reads the events of a file. -/
def read [Item α] (s : Session α) (path : String) : Except Problem (Reply α) :=
  match Journal.readFile s.storage (s.storage.absolute path) with
  | .error failure => .error (.failure failure)
  | .ok events =>
    let texts := events.filterMap fun e ↦ e.text.toOption
    .ok (.texts texts (Event.sameAll events s.journal.entries))

/-- The written form of an event. -/
def eventReply [Item α] (event : Event α) : Except Problem (Reply α) :=
  match event.text with
  | .ok text => .ok (.text text)
  | .error reason => .error (.refused reason)

/-- Carries out a command, up to the running of woken threads. -/
def perform [Item α] [Visible α] (s : Session α) :
    Command α → Except Problem (Reply α) × Session α
  | .enqueue a recorder =>
    let (index, s) := s.put a
    (.ok (.index index), s.record recorder (.enqueue a index))
  | .enqueueMany items =>
    let (indices, s) := s.putAll items
    if s.monitor.signalled.isEmpty then (.ok (.indices indices), s)
    else (.ok (.count (indices.countP Option.isSome)), s)
  | .dequeue recorder =>
    match s.startDequeue with
    | (.parks, s) => (.ok .blocked, s)
    | (.returns item, s) => (.ok (.item item), s.record recorder (.dequeue item))
  | .tryDequeue recorder =>
    let (item, s) := s.onQueue Queue.tryDequeue
    (.ok (.item item), s.record recorder (.dequeue item))
  | .settle => (.ok (.count s.monitor.parked.length), s)
  | .isEmpty =>
    let (b, s) := s.look Queue.isEmpty
    (.ok (.flag b), s)
  | .items =>
    let (items, s) := s.look Queue.items
    (.ok (.items items), s)
  | .capacity =>
    let (places, s) := s.look Queue.capacity
    (.ok (.count places), s)
  | .indexOf target =>
    let (index, s) := s.look fun q ↦ q.indexOf target
    (.ok (.index index), s)
  | .search pattern =>
    let (finding, monitor) := s.monitor.search pattern.probe
    let calls := finding.calls s.queue.length
    match finding with
    | .interrupted _ => (.error (.interrupted calls), { s with monitor })
    | finding => (.ok (.found finding.index? calls), { s with monitor })
  | .removeAt index recorder =>
    match s.removeAt index with
    | (.error e, s) => (.error (.outOfRange e), s)
    | (.ok n, s) => (.ok (.count n), s.record recorder (.removeAt index (some n)))
  | .tryRemoveAt index recorder =>
    let (n, s) := s.onQueue fun q ↦ q.tryRemoveAt index
    (.ok (.index n), s.record recorder (.removeAt index n))
  | .clear recorder =>
    let (removed, s) := s.onQueue Queue.clear
    (.ok (.count removed), (s.notify (.queueCleared removed)).record recorder (.clear removed))
  | .close recorder => (.ok .nothing, s.shut.record recorder .close)
  | .closeMany count => (.ok (.count count), if count = 0 then s else s.shut)
  | .display view pretty =>
    let (text, s) := s.look fun q ↦ q.display view pretty
    (.ok (.text text), s)
  | .take limit =>
    let (items, s) := s.onQueue fun q ↦ q.drain limit
    (.ok (.items items), s)
  | .takeThrough last =>
    let stop (a : α) : Bool := last.any (Item.same a)
    let (items, s) := s.onQueue fun q ↦ q.drainThrough stop q.length
    (.ok (.items items), s)
  | .tryTake limit =>
    let (items, s) := s.onQueue fun q ↦ q.drain (limit.getD q.length)
    (.ok (.items items), s)
  | .consume items =>
    let (_, received, s) := s.gather items 1
    (.ok (.items (received.map Prod.snd)), s)
  | .exchange batches consumers =>
    let (accepted, received, s) := s.gather batches.flatten consumers
    (.ok (.exchanged accepted (received.map Prod.snd) (inOrder batches received)), s)
  | .event account recorder =>
    let (event, s) := s.build recorder (recorder.worker.getD "") account
    (eventReply event, s)
  | .journalLength => (.ok (.count s.journal.length), s)
  | .journalIsEmpty => (.ok (.flag s.journal.isEmpty), s)
  | .count operation => (.ok (.count (s.journal.count operation)), s)
  | .entries => (.ok (.events s.journal.entries), s)
  | .entriesOf worker => (.ok (.events (s.journal.entriesOf worker)), s)
  | .newJournal => (.ok .nothing, { s with journal := .empty })
  | .append path => s.append path
  | .read path => (s.read path, s)
  | .write path content append =>
    match s.storage.write (s.storage.absolute path) content append with
    | .error _ => (.ok (.flag false), s)
    | .ok storage => (.ok (.flag true), { s with storage })
  | .makeDirectory path =>
    match s.storage.makeDirectory? (s.storage.absolute path) with
    | none => (.ok (.flag false), s)
    | some storage => (.ok (.flag true), { s with storage })
  | .content path => (.ok (.content (s.storage.content (s.storage.absolute path)).toOption), s)

/-- Carries out a command and lets the woken threads run. -/
def step [Item α] [Visible α] (s : Session α) (command : Command α) : Answer α × Session α :=
  let (result, s) := { s with notices := [], delivered := [] }.perform command
  let (answers, s) := s.deliver
  let answer : Answer α := {
    result
    delivered := s.delivered ++ answers.map Prod.snd
    length := s.queue.length
    closed := s.queue.closed
    notices := s.notices }
  (answer, s)

/-- Carries out commands one after the other. -/
def run [Item α] [Visible α] (s : Session α) : List (Command α) → List (Answer α) × Session α
  | [] => ([], s)
  | command :: commands =>
    let (answer, s) := s.step command
    let (answers, s) := s.run commands
    (answer :: answers, s)

/-- Closes the queue at the end of a session. Gives what the threads that still waited were given.
-/
def finish (s : Session α) : List (Option α) :=
  s.shut.deliver.1.map Prod.snd

end Session

end QueueJournal
