import QueueJournal.Journal.Basic
import QueueJournal.Proofs.Queue.Closed
import QueueJournal.Session.Command

/-!
# A journal replays its queue

One thread works on a queue and records in a journal what each call came to. The journal then tells
everything about the queue: replayed from its entries alone, the queue has the same items and is
closed or open as the real one was, after each entry (`Diary.replays`).

An event `Event.Fits` a replica when what it says is so there. That the events of a diary fit is
proved call by call, from the effects of the calls (`Queue.Effect.recorded`). The count of the
entries rests on the fit alone (`Coherent.count_enqueue`), and not on the queue.
-/

namespace QueueJournal

variable {α : Type}

/-! ### Replaying events -/

/-- What is told of a queue. -/
structure Replica (α : Type) where
  /-- The items, the next to be taken first. -/
  items : List α
  /-- Whether the queue has been closed. -/
  closed : Bool

/-- What can be told of a queue. -/
def Queue.replica (q : Queue α) : Replica α := ⟨q.items, q.closed⟩

namespace Replica

/-- A new queue. -/
def fresh : Replica α := ⟨[], false⟩

/-- What an event makes of a queue. A refused event makes nothing of it. -/
def apply (r : Replica α) (e : Event α) : Replica α :=
  if e.accepted then
    match e.operation with
    | .enqueue => { r with items := r.items ++ e.item.toList }
    | .dequeue => { r with items := r.items.tail }
    | .removeAt => { r with items := e.index.elim r.items r.items.eraseIdx }
    | .clear => { r with items := [] }
    | .close => ⟨[], true⟩
  else r

/-- What events make of a new queue. -/
def replay (events : List (Event α)) : Replica α :=
  events.foldl apply fresh

/-- Whether a queue does what an event asks. -/
def Accepts (r : Replica α) (e : Event α) : Prop :=
  match e.operation with
  | .enqueue => r.closed = false
  | .dequeue => r.items ≠ []
  | .removeAt => ∃ index, e.index = some index ∧ index < r.items.length
  | .clear => True
  | .close => True

@[simp]
theorem replay_nil : replay ([] : List (Event α)) = fresh := rfl

@[simp]
theorem replay_concat (events : List (Event α)) (e : Event α) :
    replay (events ++ [e]) = (replay events).apply e := by
  simp [replay]

end Replica

/-- What an event says is so of the queue before it. -/
structure Event.Fits (r : Replica α) (e : Event α) : Prop where
  /-- An event is accepted if the queue does what it asks. -/
  accepted_iff : e.accepted = true ↔ r.Accepts e
  /-- An event of putting tells the item. -/
  item : e.operation = .enqueue → e.item.isSome = true
  /-- An item that is put comes behind all others. -/
  index : e.operation = .enqueue → e.accepted = true → e.index = some r.items.length
  /-- An item that is taken is the one at the head. -/
  head : e.operation = .dequeue → e.accepted = true → e.item = r.items.head?
  /-- The size of a removal is the length after it. -/
  left : e.operation = .removeAt → e.accepted = true → e.size = some (r.apply e).items.length
  /-- The size of a clearing is the length before it. -/
  cleared : e.operation = .clear → e.size = some r.items.length

section Built

variable {r : Replica α} {stamp : Stamp} {worker : String}

@[simp]
theorem Replica.apply_enqueue {a : α} {index : Option Nat} :
    r.apply (.enqueue stamp worker a index) =
      if index.isSome then { r with items := r.items ++ [a] } else r := rfl

@[simp]
theorem Replica.apply_dequeue {item : Option α} :
    r.apply (.dequeue stamp worker item) =
      if item.isSome then { r with items := r.items.tail } else r := rfl

@[simp]
theorem Replica.apply_removeAt {index : Nat} {left : Option Nat} :
    r.apply (.removeAt stamp worker index left) =
      if left.isSome then { r with items := r.items.eraseIdx index } else r := rfl

@[simp]
theorem Replica.apply_clear {removed : Nat} :
    r.apply (.clear stamp worker removed) = { r with items := [] } := rfl

@[simp]
theorem Replica.apply_close : r.apply (.close stamp worker) = ⟨[], true⟩ := rfl

/-- An event of putting fits if it tells the index of an item that comes last, or none when the
queue is closed. -/
theorem Event.fits_enqueue {a : α} {index : Option Nat}
    (h : index = if r.closed then none else some r.items.length) :
    (Event.enqueue stamp worker a index).Fits r := by
  subst h
  cases hclosed : r.closed <;> constructor <;>
    simp [Event.enqueue, Replica.Accepts, hclosed]

/-- An event of taking fits if it tells the item at the head. -/
theorem Event.fits_dequeue {item : Option α} (h : item = r.items.head?) :
    (Event.dequeue stamp worker item).Fits r := by
  subst h
  constructor <;> simp [Event.dequeue, Replica.Accepts]

/-- An event of removal fits if it tells the length that is left, or none when the index is out of
range. -/
theorem Event.fits_removeAt {index : Nat} {left : Option Nat}
    (h : left = if index < r.items.length then some (r.items.length - 1) else none) :
    (Event.removeAt stamp worker index left).Fits r := by
  subst h
  by_cases hlt : index < r.items.length <;> constructor <;>
    simp [Event.removeAt, Replica.Accepts, Replica.apply, List.length_eraseIdx, hlt]

/-- An event of clearing fits if it tells the length. -/
theorem Event.fits_clear {removed : Nat} (h : removed = r.items.length) :
    (Event.clear stamp worker removed : Event α).Fits r := by
  subst h
  constructor <;> simp [Event.clear, Replica.Accepts]

/-- An event of closing fits any queue. -/
theorem Event.fits_close : (Event.close stamp worker : Event α).Fits r := by
  constructor <;> simp [Event.close, Replica.Accepts]

end Built

/-! ### Coherent journals -/

/-- A journal each of whose events fits what those before it make of a new queue. -/
inductive Journal.Coherent : Journal α → Prop where
  /-- There are no events. -/
  | empty : Coherent .empty
  /-- One more event fits. -/
  | record {j : Journal α} {e : Event α} (before : Coherent j) (fits : e.Fits (.replay j.entries)) :
    Coherent (j.record e)

/-- How many items of an operation an event stands for. -/
def Event.tally (e : Event α) (op : Operation) : Nat :=
  if e.operation == op && e.accepted then 1 else 0

/-- How many items an event says were cleared. -/
def Event.clearance (e : Event α) : Nat :=
  if e.operation == .clear then e.size.getD 0 else 0

/-- How many items are said to have been cleared. -/
def Journal.cleared (j : Journal α) : Nat :=
  j.entries.foldl (fun n e ↦ n + e.clearance) 0

/-- What an event that fits does to the length of a queue that it leaves open. -/
theorem Event.Fits.length_apply {r : Replica α} {e : Event α} (h : e.Fits r)
    (hopen : (r.apply e).closed = false) :
    r.closed = false ∧ r.items.length + e.tally .enqueue =
      (r.apply e).items.length + e.tally .dequeue + e.tally .removeAt + e.clearance := by
  have haccepts := h.accepted_iff
  rw [Replica.Accepts] at haccepts
  cases haccepted : e.accepted with
  | false =>
    have hclear : e.operation ≠ .clear := fun hop ↦ by simp [hop, haccepted] at haccepts
    have hsame : r.apply e = r := by simp [Replica.apply, haccepted]
    rw [hsame] at hopen ⊢
    exact ⟨hopen, by simp [Event.tally, Event.clearance, haccepted, hclear]⟩
  | true =>
    cases hop : e.operation with
    | enqueue =>
      obtain ⟨a, ha⟩ := Option.isSome_iff_exists.1 (h.item hop)
      have happly : r.apply e = { r with items := r.items ++ [a] } := by
        simp [Replica.apply, haccepted, hop, ha]
      rw [happly] at hopen ⊢
      exact ⟨hopen, by simp [Event.tally, Event.clearance, haccepted, hop]⟩
    | dequeue =>
      have hpos : 0 < r.items.length :=
        List.length_pos_iff.2 (by simpa [hop, haccepted] using haccepts)
      have happly : r.apply e = { r with items := r.items.tail } := by
        simp [Replica.apply, haccepted, hop]
      rw [happly] at hopen ⊢
      refine ⟨hopen, ?_⟩
      simp only [Event.tally, Event.clearance, haccepted, hop, List.length_tail]
      simp
      omega
    | removeAt =>
      obtain ⟨index, hindex, hlt⟩ : ∃ index, e.index = some index ∧ index < r.items.length := by
        simpa [hop, haccepted] using haccepts
      have happly : r.apply e = { r with items := r.items.eraseIdx index } := by
        simp [Replica.apply, haccepted, hop, hindex]
      rw [happly] at hopen ⊢
      refine ⟨hopen, ?_⟩
      simp only [Event.tally, Event.clearance, haccepted, hop, List.length_eraseIdx, if_pos hlt]
      simp
      omega
    | clear =>
      have happly : r.apply e = { r with items := [] } := by
        simp [Replica.apply, haccepted, hop]
      rw [happly] at hopen ⊢
      exact ⟨hopen, by simp [Event.tally, Event.clearance, hop, h.cleared hop]⟩
    | close => simp [Replica.apply, haccepted, hop] at hopen

namespace Journal

variable {j : Journal α} {e : Event α} {n : Nat}

theorem count_record (op : Operation) : (j.record e).count op = j.count op + e.tally op := by
  simp [count, Event.tally, List.countP_append, List.countP_singleton]

theorem cleared_record : (j.record e).cleared = j.cleared + e.clearance := by
  simp [cleared]

theorem Coherent.fits (h : j.Coherent) (hn : j.entries[n]? = some e) :
    e.Fits (.replay (j.entries.take n)) := by
  induction h with
  | empty => simp at hn
  | @record j last before fits ih =>
    rw [entries_record] at hn ⊢
    rcases Nat.lt_trichotomy n j.entries.length with hlt | rfl | hgt
    · rw [List.getElem?_append_left hlt] at hn
      rw [List.take_append_of_le_length (Nat.le_of_lt hlt)]
      exact ih hn
    · obtain rfl : last = e := by simpa using hn
      rwa [List.take_left]
    · simp [List.getElem?_append_right (Nat.le_of_lt hgt), Nat.sub_ne_zero_of_lt hgt] at hn

/-- **The entries of a journal balance while the queue is open**: what was put is what was taken,
removed and cleared, and what is there. -/
theorem Coherent.count_enqueue (h : j.Coherent)
    (hopen : (Replica.replay j.entries).closed = false) :
    j.count .enqueue = (Replica.replay j.entries).items.length + j.count .dequeue +
      j.count .removeAt + j.cleared := by
  induction h with
  | empty => rfl
  | @record j e before fits ih =>
    rw [entries_record, Replica.replay_concat] at hopen ⊢
    obtain ⟨hbefore, hlength⟩ := fits.length_apply hopen
    have hbalance := ih hbefore
    rw [count_record, count_record, count_record, cleared_record]
    omega

end Journal

/-! ### Recording what a queue does -/

/-- What is recorded of a call that was answered so. A removal without a result is not recorded. -/
def account? : Call α → Result α → Option (Account α)
  | .enqueue a, .index index => some (.enqueue a index)
  | .dequeue, .item item => some (.dequeue item)
  | .tryDequeue, .item item => some (.dequeue item)
  | .removeAt index, .removal (.ok left) => some (.removeAt index (some left))
  | .tryRemoveAt index, .remaining left => some (.removeAt index left)
  | .clear, .count removed => some (.clear removed)
  | .close, .closed _ => some .close
  | _, _ => none

namespace Queue

/-- Whether a single thread gets through with a call that is recorded: it must not have to wait, and
it must not ask for an index that is out of range. -/
def admits (q : Queue α) : Call α → Bool
  | .enqueue _ => true
  | .dequeue => !q.mustWait
  | .tryDequeue => true
  | .removeAt index => decide (index < q.items.length)
  | .tryRemoveAt _ => true
  | .clear => true
  | .close => true
  | _ => false

variable [Item α] {q q' : Queue α} {call : Call α} {result : Result α}

/-- **A call that gets through is told by its event**: the event fits the queue before the call, and
makes of it the queue behind the call. -/
theorem Effect.recorded (h : Effect q call result q') (hshut : q.closed = true → q = shut)
    (hadmits : q.admits call = true) (stamp : Stamp) (worker : String) :
    ∃ account, account? call result = some account ∧
      (account.event stamp worker).Fits q.replica ∧
      q'.replica = q.replica.apply (account.event stamp worker) := by
  have hnone : q.closed = true → q.items = [] := fun hclosed ↦ by rw [hshut hclosed]; rfl
  cases h with
  | accepts a isOpen =>
    exact ⟨_, rfl, Event.fits_enqueue (by simp [replica, isOpen]), by
      simp [Account.event, replica, isOpen]⟩
  | refuses a isClosed =>
    exact ⟨_, rfl, Event.fits_enqueue (by simp [replica, isClosed]), by simp [Account.event]⟩
  | @gives call taking a items isOpen head =>
    exact ⟨.dequeue (some a), by rcases taking with rfl | rfl <;> rfl,
      Event.fits_dequeue (by simp [replica, head]), by simp [Account.event, replica, head]⟩
  | @lacks call taking lacking =>
    have hitems : q.items = [] := lacking.elim hnone id
    exact ⟨.dequeue none, by rcases taking with rfl | rfl <;> rfl,
      Event.fits_dequeue (by simp [replica, hitems]), by simp [Account.event]⟩
  | removes inRange =>
    exact ⟨_, rfl, Event.fits_removeAt (by simp [replica, inRange]), by
      simp [Account.event, replica]⟩
  | removesNothing outOfRange => simp [admits, Nat.not_lt.2 outOfRange] at hadmits
  | triesRemoving inRange =>
    exact ⟨_, rfl, Event.fits_removeAt (by simp [replica, inRange]), by
      simp [Account.event, replica]⟩
  | triesInVain outOfRange =>
    exact ⟨_, rfl, Event.fits_removeAt (by simp [replica, Nat.not_lt.2 outOfRange]), by
      simp [Account.event]⟩
  | clears => exact ⟨_, rfl, Event.fits_clear rfl, by simp [Account.event, replica]⟩
  | closes isOpen => exact ⟨_, rfl, Event.fits_close, by simp [Account.event, replica]⟩
  | staysClosed isClosed =>
    exact ⟨_, rfl, Event.fits_close, by
      simp [Account.event, replica, isClosed, hnone isClosed]⟩
  | reads answer => cases call <;> simp [admits, read?] at hadmits answer

end Queue

/-! ### Diaries -/

/-- A call with the name of the worker and the stamp that its event gets. -/
structure Act (α : Type) where
  /-- The call. -/
  call : Call α
  /-- The name of the worker. -/
  worker : String
  /-- The number and the time of the event. -/
  stamp : Stamp

/-- A queue with the journal of what was done to it. -/
structure Diary (α : Type) where
  /-- The queue. -/
  queue : Queue α
  /-- The journal. -/
  journal : Journal α

namespace Diary

/-- A new queue of which nothing is recorded. -/
def new : Diary α := ⟨.empty, .empty⟩

variable [Item α]

/-- The queue does what a call asks, and the answer is recorded. -/
def act (d : Diary α) (a : Act α) : Diary α :=
  let (result, queue) := d.queue.perform a.call
  match account? a.call result with
  | some account => ⟨queue, d.journal.record (account.event a.stamp a.worker)⟩
  | none => { d with queue }

/-- One call after the other. -/
def run (acts : List (Act α)) : Diary α :=
  acts.foldl act new

/-- Calls of one thread on a new queue, none of which makes it wait or break off. -/
inductive Admitted : List (Act α) → Prop where
  /-- There are no calls. -/
  | nil : Admitted []
  /-- One more call gets through. -/
  | snoc {acts : List (Act α)} {a : Act α} (before : Admitted acts)
    (admits : (run acts).queue.admits a.call = true) : Admitted (acts ++ [a])

/-- The journal of calls of one thread is a log of the queue. -/
structure Replays (acts : List (Act α)) : Prop where
  /-- There is one entry for each call. -/
  length : (run acts).journal.entries.length = acts.length
  /-- The entries of the first calls come first. -/
  entries : ∀ n, (run (acts.take n)).journal.entries = (run acts).journal.entries.take n
  /-- Replayed from the first entries, the queue is what the first calls have made of it. -/
  replay : ∀ n, .replay ((run acts).journal.entries.take n) = (run (acts.take n)).queue.replica
  /-- What an entry says is so of the queue before its call. -/
  fits : ∀ n (e : Event α), (run acts).journal.entries[n]? = some e →
    e.Fits (run (acts.take n)).queue.replica
  /-- While the queue is open, its length is what was put less what was taken, removed and cleared.
  -/
  balance : ∀ n, (run (acts.take n)).queue.closed = false →
    (run (acts.take n)).journal.count .enqueue =
      (run (acts.take n)).queue.length + (run (acts.take n)).journal.count .dequeue +
        (run (acts.take n)).journal.count .removeAt + (run (acts.take n)).journal.cleared

variable {acts : List (Act α)} {a : Act α}

@[simp]
theorem run_concat : run (acts ++ [a]) = (run acts).act a := by
  simp [run]

/-- What is so of a diary whose calls all got through. -/
structure Kept (d : Diary α) : Prop where
  /-- A closed queue has no items and no buffer. -/
  shut : d.queue.closed = true → d.queue = .shut
  /-- The events fit. -/
  coherent : d.journal.Coherent
  /-- The journal replays the queue. -/
  replay : .replay d.journal.entries = d.queue.replica

omit [Item α] in
theorem kept_new : Kept (new : Diary α) :=
  ⟨(nomatch ·), .empty, rfl⟩

/-- A call that gets through is recorded by an event that replays it. -/
theorem Kept.act {d : Diary α} (h : Kept d) (hadmits : d.queue.admits a.call = true) :
    Kept (d.act a) ∧ ∃ e, (d.act a).journal = d.journal.record e := by
  have heffect := d.queue.effect_perform a.call
  cases hperform : d.queue.perform a.call with
  | mk result queue =>
    rw [hperform] at heffect
    obtain ⟨account, haccount, hfits, happly⟩ :=
      heffect.recorded h.shut hadmits a.stamp a.worker
    have hact : d.act a = ⟨queue, d.journal.record (account.event a.stamp a.worker)⟩ := by
      simp [Diary.act, hperform, haccount]
    rw [← h.replay] at hfits happly
    rw [hact]
    refine ⟨⟨heffect.eq_shut h.shut, .record h.coherent hfits, ?_⟩, _, rfl⟩
    rw [Journal.entries_record, Replica.replay_concat, happly]

theorem Admitted.kept (h : Admitted acts) : Kept (run acts) := by
  induction h with
  | nil => exact kept_new
  | snoc before admits ih =>
    rw [run_concat]
    exact (ih.act admits).1

theorem Admitted.take (h : Admitted acts) (n : Nat) : Admitted (acts.take n) := by
  induction h with
  | nil => simpa using Admitted.nil
  | @snoc acts a before admits ih =>
    rcases Nat.lt_or_ge acts.length n with hlt | hle
    · rw [List.take_of_length_le (by rw [List.length_append]; exact hlt)]
      exact .snoc before admits
    · rwa [List.take_append_of_le_length hle]

theorem Admitted.length_entries (h : Admitted acts) :
    (run acts).journal.entries.length = acts.length := by
  induction h with
  | nil => rfl
  | snoc before admits ih =>
    obtain ⟨-, e, he⟩ := before.kept.act admits
    simp [he, ih]

theorem Admitted.take_entries (h : Admitted acts) (n : Nat) :
    (run (acts.take n)).journal.entries = (run acts).journal.entries.take n := by
  induction h with
  | nil => simp [run, new]
  | @snoc acts a before admits ih =>
    obtain ⟨-, e, he⟩ := before.kept.act admits
    have hentries : (run (acts ++ [a])).journal.entries = (run acts).journal.entries ++ [e] := by
      rw [run_concat, he, Journal.entries_record]
    rcases Nat.lt_or_ge acts.length n with hlt | hle
    · have hlength : (run (acts ++ [a])).journal.entries.length = acts.length + 1 := by
        rw [hentries, List.length_append, before.length_entries, List.length_singleton]
      rw [List.take_of_length_le (by rw [List.length_append]; exact hlt),
        List.take_of_length_le (Nat.le_trans (Nat.le_of_eq hlength) hlt)]
    · rw [List.take_append_of_le_length hle, hentries, ih,
        List.take_append_of_le_length (before.length_entries ▸ hle)]

/-- **The journal of one thread is a complete log of its queue.** Replayed from the entries alone,
the queue has the same items and is closed or open as the real one was, after each of the calls. -/
theorem replays (h : Admitted acts) : Replays acts where
  length := h.length_entries
  entries := h.take_entries
  replay n := by rw [← h.take_entries, (h.take n).kept.replay]
  fits n e hn := by
    rw [← (h.take n).kept.replay, h.take_entries]
    exact h.kept.coherent.fits hn
  balance n hopen := by
    have hkept := (h.take n).kept
    have hcount := hkept.coherent.count_enqueue (by rw [hkept.replay]; exact hopen)
    rw [hkept.replay] at hcount
    exact hcount

/-- Calls with and without effect, on the open and on the closed queue. -/
def errands : List (Act String) :=
  [⟨.enqueue "a", "p", ⟨1, 10⟩⟩, ⟨.enqueue "b", "p", ⟨2, 11⟩⟩, ⟨.tryRemoveAt 2, "c", ⟨3, 12⟩⟩,
    ⟨.removeAt 0, "c", ⟨4, 13⟩⟩, ⟨.dequeue, "c", ⟨5, 14⟩⟩, ⟨.tryDequeue, "c", ⟨6, 15⟩⟩,
    ⟨.enqueue "d", "p", ⟨7, 16⟩⟩, ⟨.clear, "c", ⟨8, 17⟩⟩, ⟨.enqueue "e", "p", ⟨9, 18⟩⟩,
    ⟨.close, "p", ⟨10, 19⟩⟩, ⟨.enqueue "f", "p", ⟨11, 20⟩⟩, ⟨.dequeue, "c", ⟨12, 21⟩⟩,
    ⟨.close, "p", ⟨13, 22⟩⟩]

theorem replays_errands :
    Admitted errands ∧ Replays errands ∧ (run (errands.take 7)).queue.replica = ⟨["d"], false⟩ ∧
      (run errands).queue.replica = ⟨[], true⟩ :=
  have admitted : Admitted errands :=
    .snoc (.snoc (.snoc (.snoc (.snoc (.snoc (.snoc (.snoc (.snoc (.snoc (.snoc (.snoc (.snoc .nil
      rfl) rfl) rfl) rfl) rfl) rfl) rfl) rfl) rfl) rfl) rfl) rfl) rfl
  ⟨admitted, replays admitted, rfl, rfl⟩

end Diary

end QueueJournal
