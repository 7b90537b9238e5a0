import QueueJournal.Queue.Lock
import QueueJournal.Queue.Search
import QueueJournal.Queue.Show

/-!
# What a call does to a queue

`Queue.perform` does what a call asks by the operation that it names. `Queue.Effect q call result
q'` says what the queue answers and what becomes of it, with one rule for each outcome, in terms of
the list of items and the closed flag. The two agree (`Queue.effect_iff`).

A queue that serves one thread at a time does less than that. Where the rules let an open queue
without items turn away a thread that waits for one, `Queue.Serves` makes that thread wait: it is
served only when there is an item or the queue is closed, and it goes without an item exactly if the
queue is closed.
-/

namespace QueueJournal

/-- What a thread can ask of a queue. -/
inductive Call (α : Type) where
  /-- Put an item. -/
  | enqueue (item : α)
  /-- Take an item and wait for one if there is none. The waiting iterator asks for this. -/
  | dequeue
  /-- Take an item if there is one. The iterator that does not wait asks for this. -/
  | tryDequeue
  /-- Remove the item at an index. -/
  | removeAt (index : Nat)
  /-- Remove the item at an index if there is one. -/
  | tryRemoveAt (index : Nat)
  /-- Remove all items. -/
  | clear
  /-- Close the queue. -/
  | close
  /-- Find an item by a test. -/
  | search (probe : Probe α)
  /-- Find an item that equals the target. -/
  | indexOf (target : α)
  /-- Copy the items. -/
  | items
  /-- Tell how many items there are. -/
  | length
  /-- Tell whether there are no items. -/
  | isEmpty
  /-- Tell whether the queue is closed. -/
  | isClosed
  /-- Tell the places of the buffer. -/
  | capacity
  /-- Show the queue. -/
  | display (view : Queue.View) (pretty : Bool)

/-- Whether a call takes the item at the head. -/
def Call.Takes {α : Type} (call : Call α) : Prop :=
  call = .dequeue ∨ call = .tryDequeue

/-- What a thread is answered. -/
inductive Result (α : Type) where
  /-- An index, if there is one. -/
  | index (index : Option Nat)
  /-- An item, if there is one. -/
  | item (item : Option α)
  /-- The length after a removal, or an index that was out of range. -/
  | removal (outcome : Except Queue.OutOfRange Nat)
  /-- The length after a removal, if there was one. -/
  | remaining (length : Option Nat)
  /-- A number. -/
  | count (n : Nat)
  /-- How many items were discarded, unless the queue was closed before. -/
  | closed (discarded : Option Nat)
  /-- How a search ended. -/
  | finding (finding : Finding)
  /-- Items. -/
  | items (items : List α)
  /-- A truth value. -/
  | flag (b : Bool)
  /-- A text. -/
  | text (text : List Char)

/-- Whether a test broke off. -/
def Result.interrupted {α : Type} : Result α → Bool
  | finding f => f.isInterrupted
  | _ => false

namespace Queue

variable {α : Type} [Item α] {q q' : Queue α} {call : Call α} {result : Result α}

/-- The answer to a call that only looks at the queue. -/
def read? (q : Queue α) : Call α → Option (Result α)
  | .search probe => some (.finding (q.search probe))
  | .indexOf target => some (.index (q.items.findIdx? (Item.same · target)))
  | .items => some (.items q.items)
  | .length => some (.count q.items.length)
  | .isEmpty => some (.flag q.items.isEmpty)
  | .isClosed => some (.flag q.closed)
  | .capacity => some (.count q.capacity)
  | .display view pretty => some (.text (q.display view pretty))
  | _ => none

/-- Do what a call asks. A call that waits for an item is given what there is. -/
def perform (q : Queue α) : Call α → Result α × Queue α
  | .enqueue a => (.index (q.enqueue a).1, (q.enqueue a).2)
  | .dequeue => (.item q.tryDequeue.1, q.tryDequeue.2)
  | .tryDequeue => (.item q.tryDequeue.1, q.tryDequeue.2)
  | .removeAt index =>
    let (outcome, guard) := (Guard.mk q true).removeAt index
    (.removal outcome, guard.queue)
  | .tryRemoveAt index => (.remaining (q.tryRemoveAt index).1, (q.tryRemoveAt index).2)
  | .clear => (.count q.clear.1, q.clear.2)
  | .close => (.closed q.close.1, q.close.2)
  | .search probe => (.finding (q.search probe), q)
  | .indexOf target => (.index (q.indexOf target), q)
  | .items => (.items q.items, q)
  | .length => (.count q.length, q)
  | .isEmpty => (.flag q.isEmpty, q)
  | .isClosed => (.flag q.closed, q)
  | .capacity => (.count q.capacity, q)
  | .display view pretty => (.text (q.display view pretty), q)

/-- What a queue answers to a call, and what becomes of it. -/
inductive Effect (q : Queue α) : Call α → Result α → Queue α → Prop where
  /-- An open queue puts an item at the tail. -/
  | accepts (a : α) (isOpen : q.closed = false) :
    Effect q (.enqueue a) (.index (some q.items.length))
      ⟨q.items ++ [a], false, q.grown (Item.firstCapacity α)⟩
  /-- A closed queue refuses an item. -/
  | refuses (a : α) (isClosed : q.closed = true) : Effect q (.enqueue a) (.index none) q
  /-- An open queue gives the item at the head. -/
  | gives {call : Call α} (taking : call.Takes) {a : α} {items : List α}
    (isOpen : q.closed = false) (head : q.items = a :: items) :
    Effect q call (.item (some a)) { q with items }
  /-- A queue that is closed or has no items gives none. -/
  | lacks {call : Call α} (taking : call.Takes) (lacking : q.closed = true ∨ q.items = []) :
    Effect q call (.item none) q
  /-- The item at an index is removed. -/
  | removes {index : Nat} (inRange : index < q.items.length) :
    Effect q (.removeAt index) (.removal (.ok (q.items.length - 1)))
      { q with items := q.items.eraseIdx index }
  /-- An index is out of range. -/
  | removesNothing {index : Nat} (outOfRange : q.items.length ≤ index) :
    Effect q (.removeAt index) (.removal (.error ⟨index, q.items.length⟩)) q
  /-- The item at an index is removed, since there is one. -/
  | triesRemoving {index : Nat} (inRange : index < q.items.length) :
    Effect q (.tryRemoveAt index) (.remaining (some (q.items.length - 1)))
      { q with items := q.items.eraseIdx index }
  /-- There is no item at an index. -/
  | triesInVain {index : Nat} (outOfRange : q.items.length ≤ index) :
    Effect q (.tryRemoveAt index) (.remaining none) q
  /-- All items are removed. -/
  | clears : Effect q .clear (.count q.items.length) { q with items := [] }
  /-- An open queue is closed, and its items are discarded. -/
  | closes (isOpen : q.closed = false) :
    Effect q .close (.closed (some q.items.length)) ⟨[], true, 0⟩
  /-- A closed queue stays closed. -/
  | staysClosed (isClosed : q.closed = true) : Effect q .close (.closed none) q
  /-- A call looks at the queue. -/
  | reads {call : Call α} {result : Result α} (answer : q.read? call = some result) :
    Effect q call result q

/-- What a queue that serves one thread at a time answers to a call, and what becomes of it. -/
structure Serves (q : Queue α) (call : Call α) (result : Result α) (q' : Queue α) : Prop where
  /-- The call has its effect. -/
  effect : Effect q call result q'
  /-- A thread that waits for an item is served when there is one, or when the queue is closed. -/
  ready : call = .dequeue → q.items ≠ [] ∨ q.closed = true
  /-- It goes without an item exactly if the queue is closed. -/
  lacks_iff : call = .dequeue → (result = .item none ↔ q.closed = true)

/-- Calls that lead a queue from one state to another when each is answered as `answers` allows. -/
inductive Runs (answers : Queue α → Call α → Result α → Queue α → Prop) (q : Queue α) :
    List (Call α × Result α) → Queue α → Prop where
  /-- No call leads nowhere. -/
  | nil : Runs answers q [] q
  /-- One more call goes on from where the others led. -/
  | snoc {calls : List (Call α × Result α)} {q₁ q₂ : Queue α} {call : Call α} {result : Result α}
    (run : Runs answers q calls q₁) (last : answers q₁ call result q₂) :
    Runs answers q (calls ++ [(call, result)]) q₂

/-! ### The effects of the operations -/

omit [Item α] in
theorem mustWait_iff : q.mustWait = true ↔ q.items = [] ∧ q.closed = false := by
  simp [mustWait, isEmpty]

omit [Item α] in
theorem mustWait_eq_false_iff : q.mustWait = false ↔ q.items ≠ [] ∨ q.closed = true := by
  cases hclosed : q.closed <;> simp [mustWait, isEmpty, hclosed]

theorem effect_enqueue (q : Queue α) (a : α) :
    Effect q (.enqueue a) (.index (q.enqueue a).1) (q.enqueue a).2 := by
  cases hclosed : q.closed with
  | true => simpa [enqueue, hclosed] using Effect.refuses a hclosed
  | false => simpa [enqueue, hclosed, length] using Effect.accepts a hclosed

theorem effect_tryDequeue (q : Queue α) (taking : call.Takes) :
    Effect q call (.item q.tryDequeue.1) q.tryDequeue.2 := by
  cases hclosed : q.closed with
  | true => simpa [tryDequeue, hclosed] using Effect.lacks taking (.inl hclosed)
  | false =>
    cases hitems : q.items with
    | nil => simpa [tryDequeue, hclosed, hitems] using Effect.lacks taking (.inr hitems)
    | cons a items => simpa [tryDequeue, hclosed, hitems] using Effect.gives taking hclosed hitems

theorem effect_removeAt (q : Queue α) (index : Nat) :
    Effect q (.removeAt index) (q.perform (.removeAt index)).1 (q.perform (.removeAt index)).2 := by
  rw [perform]
  rcases Nat.lt_or_ge index q.length with hlt | hge
  · rw [Guard.removeAt_of_lt hlt]
    exact .removes hlt
  · rw [Guard.removeAt_of_le hge]
    exact .removesNothing hge

theorem effect_tryRemoveAt (q : Queue α) (index : Nat) :
    Effect q (.tryRemoveAt index) (.remaining (q.tryRemoveAt index).1) (q.tryRemoveAt index).2 := by
  rcases Nat.lt_or_ge index q.length with hlt | hge
  · rw [tryRemoveAt_of_lt hlt]
    exact .triesRemoving hlt
  · rw [tryRemoveAt_of_le hge]
    exact .triesInVain hge

theorem effect_clear (q : Queue α) : Effect q .clear (.count q.clear.1) q.clear.2 :=
  Effect.clears

theorem effect_close (q : Queue α) : Effect q .close (.closed q.close.1) q.close.2 := by
  cases hclosed : q.closed with
  | true => simpa [close, hclosed] using Effect.staysClosed hclosed
  | false => simpa [close, hclosed, length] using Effect.closes hclosed

/-- A search for an equal item asks about the items in order, whatever was asked before. -/
theorem run_equals (target : α) (before items : List α) :
    ((Probe.equals target).run before items).index? =
      (items.findIdx? (Item.same · target)).map (· + before.length) := by
  induction items generalizing before with
  | nil => rfl
  | cons a items ih =>
    by_cases hsame : Item.same a target = true
    · simp [Probe.run, Probe.equals, hsame, Finding.index?, List.findIdx?_cons]
    · -- An item that differs is one more that was asked about before.
      have hrun : (Probe.equals target).run before (a :: items) =
          (Probe.equals target).run (a :: before) items := by
        simp [Probe.run, Probe.equals, hsame]
      rw [hrun, ih, List.findIdx?_cons]
      simp only [hsame, Bool.false_eq_true, if_false, Option.map_map, List.length_cons]
      congr 1
      funext i
      simp only [Function.comp_apply]
      omega

theorem indexOf_eq_findIdx? (q : Queue α) (target : α) :
    q.indexOf target = q.items.findIdx? (Item.same · target) := by
  rw [indexOf, search, run_equals]
  simp

theorem effect_perform (q : Queue α) (call : Call α) :
    Effect q call (q.perform call).1 (q.perform call).2 := by
  cases call with
  | enqueue a => exact q.effect_enqueue a
  | dequeue => exact q.effect_tryDequeue (.inl rfl)
  | tryDequeue => exact q.effect_tryDequeue (.inr rfl)
  | removeAt index => exact q.effect_removeAt index
  | tryRemoveAt index => exact q.effect_tryRemoveAt index
  | clear => exact q.effect_clear
  | close => exact q.effect_close
  | indexOf target => exact .reads (by rw [perform, q.indexOf_eq_findIdx? target]; rfl)
  | _ => exact .reads rfl

/-- **A call has one effect.** -/
theorem Effect.perform_eq (h : Effect q call result q') : q.perform call = (result, q') := by
  cases h with
  | accepts a isOpen => simp [perform, enqueue, isOpen, length]
  | refuses a isClosed => simp [perform, enqueue, isClosed]
  | gives taking isOpen head =>
    rcases taking with rfl | rfl <;> simp [perform, tryDequeue, isOpen, head]
  | lacks taking lacking =>
    have hnone : q.tryDequeue = (none, q) := by
      rcases lacking with hclosed | hnil
      · simp [tryDequeue, hclosed]
      · simp [tryDequeue, hnil]
    rcases taking with rfl | rfl <;> simp [perform, hnone]
  | removes inRange =>
    rw [perform, Guard.removeAt_of_lt inRange]
    rfl
  | removesNothing outOfRange =>
    rw [perform, Guard.removeAt_of_le outOfRange]
    rfl
  | triesRemoving inRange =>
    rw [perform, tryRemoveAt_of_lt inRange]
    rfl
  | triesInVain outOfRange => rw [perform, tryRemoveAt_of_le outOfRange]
  | clears => rfl
  | closes isOpen => simp [perform, close, isOpen, length]
  | staysClosed isClosed => simp [perform, close, isClosed]
  | reads answer =>
    cases call with
    | indexOf target =>
      obtain rfl : .index (q.items.findIdx? (Item.same · target)) = result := by
        simpa [read?] using answer
      rw [perform, indexOf_eq_findIdx?]
    | _ => simp_all [read?, perform, length, isEmpty]

/-- The rules are what the operations do. -/
theorem effect_iff : Effect q call result q' ↔ q.perform call = (result, q') := by
  refine ⟨Effect.perform_eq, fun h ↦ ?_⟩
  have heffect := q.effect_perform call
  rwa [h] at heffect

/-- A call that takes an item is given the one at the head, or none. -/
theorem Effect.of_takes (h : Effect q call result q') (taking : call.Takes) :
    (∃ a items, q.closed = false ∧ q.items = a :: items ∧ result = .item (some a) ∧
        q' = { q with items }) ∨
      ((q.closed = true ∨ q.items = []) ∧ result = .item none ∧ q' = q) := by
  cases h with
  | gives _ isOpen head => exact .inl ⟨_, _, isOpen, head, rfl, rfl⟩
  | lacks _ lacking => exact .inr ⟨lacking, rfl, rfl⟩
  | reads answer => rcases taking with rfl | rfl <;> simp [read?] at answer
  | _ => rcases taking with h | h <;> simp at h

/-- A thread that need not wait is given the item at the head, or none by a closed queue. -/
theorem Effect.of_ready {item : Option α} (h : Effect q .dequeue (.item item) q')
    (ready : q.mustWait = false) :
    (∃ a items, q.closed = false ∧ q.items = a :: items ∧ item = some a ∧ q' = { q with items }) ∨
      (q.closed = true ∧ item = none ∧ q' = q) := by
  rcases h.of_takes (.inl rfl) with ⟨a, items, isOpen, head, hitem, rfl⟩ | ⟨lacking, hitem, rfl⟩
  · exact .inl ⟨a, items, isOpen, head, by simpa using hitem, rfl⟩
  · have hclosed := (mustWait_eq_false_iff.1 ready).elim lacking.resolve_right id
    exact .inr ⟨hclosed, by simpa using hitem, rfl⟩

/-- An item that is given an index goes to the tail of an open queue. -/
theorem Effect.of_accepted {a : α} {index : Nat}
    (h : Effect q (.enqueue a) (.index (some index)) q') :
    q'.closed = q.closed ∧ q'.items = q.items ++ [a] := by
  cases h with
  | accepts _ isOpen => exact ⟨isOpen.symm, rfl⟩
  | reads answer => simp [read?] at answer

/-- An item that is given no index is refused by a closed queue. -/
theorem Effect.of_refused {a : α} (h : Effect q (.enqueue a) (.index none) q') :
    q.closed = true ∧ q' = q := by
  cases h with
  | refuses _ isClosed => exact ⟨isClosed, rfl⟩
  | reads answer => simp [read?] at answer

/-- An open queue is closed with its items discarded. -/
theorem Effect.of_close {discarded : Option Nat} (h : Effect q .close (.closed discarded) q')
    (isOpen : q.closed = false) : discarded = some q.items.length ∧ q' = ⟨[], true, 0⟩ := by
  cases h with
  | closes => exact ⟨rfl, rfl⟩
  | staysClosed isClosed => simp [isOpen] at isClosed
  | reads answer => simp [read?] at answer

/-! ### Serving one thread at a time -/

/-- A thread that need not wait is served, whatever it asks. -/
theorem serves_of_effect (h : Effect q call result q')
    (ready : call = .dequeue → q.mustWait = false) : Serves q call result q' := by
  have hready : call = .dequeue → q.items ≠ [] ∨ q.closed = true := fun hcall ↦
    mustWait_eq_false_iff.1 (ready hcall)
  refine ⟨h, hready, ?_⟩
  rintro rfl
  rcases h.of_takes (.inl rfl) with ⟨a, items, isOpen, -, rfl, -⟩ | ⟨lacking, rfl, -⟩
  · simp [isOpen]
  · have hclosed : q.closed = true := (hready rfl).elim lacking.resolve_right id
    simp [hclosed]

end Queue

end QueueJournal
