import Mathlib.Logic.Function.Basic
import Mathlib.Logic.Relation
import QueueJournal.Proofs.Monitor.Section

/-!
# A crowd of threads at a queue

Any number of threads call the operations of one queue, in any interleaving. `Crowd.Step` is one
step of one thread: it makes a call, has the lock for the first time, has the lock again after it
was signalled, wakes for no reason, or returns with its result. A call has its effect in the
critical section in which it ends; the thread may return at any later time.

`Crowd.Move` says what a step comes to, outcome by outcome. Invariants are proved from it, and do
not open the critical sections (`Step.move`).

The history of a crowd lists what happened in the order of time: calls made, calls done, threads
returning. `Crowd.deeds` are the calls done, which is the order in which they ended under the lock.

Two invariants hold along every run: the monitor's lists are the threads that wait, each once
(`listed_of_reachable`), and the deeds lead the queue from a new one to the one there is
(`runs_of_reachable`).
-/

namespace QueueJournal

/-- A call that has been done. -/
structure Deed (α : Type) where
  /-- The number of the call, in the order in which calls are made. -/
  number : Nat
  /-- The thread that made the call. -/
  thread : Nat
  /-- What it asked. -/
  call : Call α
  /-- What it was answered. -/
  result : Result α

/-- What can happen in a crowd. -/
inductive Moment (α : Type) where
  /-- A thread makes a call. -/
  | called (number thread : Nat) (call : Call α)
  /-- A call ends under the lock. -/
  | done (deed : Deed α)
  /-- The thread returns with the result of its call. -/
  | returned (deed : Deed α)

/-- The call that is done at a moment. -/
def Moment.deed? {α : Type} : Moment α → Option (Deed α)
  | done deed => some deed
  | _ => none

/-- The calls that have been done, in the order in which they ended under the lock. -/
def deedsOf {α : Type} (history : List (Moment α)) : List (Deed α) :=
  history.filterMap Moment.deed?

section History

variable {α : Type} {history : List (Moment α)} {deed : Deed α}

@[simp]
theorem deedsOf_called {number thread : Nat} {call : Call α} :
    deedsOf (history ++ [.called number thread call]) = deedsOf history := by
  simp [deedsOf, Moment.deed?]

@[simp]
theorem deedsOf_done : deedsOf (history ++ [.done deed]) = deedsOf history ++ [deed] := by
  simp [deedsOf, Moment.deed?]

@[simp]
theorem deedsOf_returned : deedsOf (history ++ [.returned deed]) = deedsOf history := by
  simp [deedsOf, Moment.deed?]

theorem mem_deedsOf_iff : deed ∈ deedsOf history ↔ .done deed ∈ history := by
  rw [deedsOf, List.mem_filterMap]
  constructor
  · rintro ⟨moment, hmem, hdeed⟩
    cases moment <;> simp_all [Moment.deed?]
  · exact fun h ↦ ⟨_, h, rfl⟩

end History

/-- Where a thread stands. -/
inductive Stage (α : Type) where
  /-- It has made no call, or has returned from its last. -/
  | idle
  /-- It has made a call and has not had the lock since. -/
  | called (number : Nat) (call : Call α)
  /-- It waits for an item: it sleeps, or has been signalled and has not had the lock since. -/
  | waiting (number : Nat)
  /-- Its call is done, and it has not returned. -/
  | leaving (deed : Deed α)

/-- Whether a thread waits for an item. -/
def Stage.Waits {α : Type} (s : Stage α) : Prop :=
  ∃ number, s = .waiting number

/-- A queue and the threads that call its operations. -/
structure Crowd (α : Type) where
  /-- The queue, with the threads that wait for its items. -/
  monitor : Monitor α
  /-- Where each thread stands. -/
  stage : Nat → Stage α
  /-- How many calls have been made. -/
  calls : Nat
  /-- What has happened, in the order of time. -/
  history : List (Moment α)

namespace Crowd

variable {α : Type}

/-- A new queue and threads that have made no call. -/
def empty : Crowd α := ⟨.empty, fun _ ↦ .idle, 0, []⟩

/-- The queue. -/
abbrev queue (c : Crowd α) : Queue α :=
  c.monitor.queue

/-- The calls that have been done, in the order in which they ended under the lock. -/
def deeds (c : Crowd α) : List (Deed α) :=
  deedsOf c.history

/-- The calls that have been done, without who made them. -/
def dealings (c : Crowd α) : List (Call α × Result α) :=
  c.deeds.map fun deed ↦ (deed.call, deed.result)

/-- A thread sleeps in the queue. -/
def Asleep (c : Crowd α) (thread : Nat) : Prop :=
  (c.stage thread).Waits ∧ thread ∈ c.monitor.parked

/-- A thread that has slept was signalled, or woke for no reason, and has not had the lock since. -/
def Roused (c : Crowd α) (thread : Nat) : Prop :=
  (c.stage thread).Waits ∧ thread ∈ c.monitor.signalled

/-! ### Steps -/

/-- A thread makes a call. -/
def make (c : Crowd α) (thread : Nat) (call : Call α) : Crowd α where
  monitor := c.monitor
  stage := Function.update c.stage thread (.called c.calls call)
  calls := c.calls + 1
  history := c.history ++ [.called c.calls thread call]

/-- A thread leaves a critical section in which it has fallen asleep. -/
def sleep (c : Crowd α) (thread number : Nat) (monitor : Monitor α) : Crowd α :=
  { c with monitor, stage := Function.update c.stage thread (.waiting number) }

/-- A thread leaves a critical section in which its call has ended. -/
def finish (c : Crowd α) (deed : Deed α) (monitor : Monitor α) : Crowd α :=
  { c with
    monitor
    stage := Function.update c.stage deed.thread (.leaving deed)
    history := c.history ++ [.done deed] }

/-- A thread leaves a critical section, with what it is answered unless it has fallen asleep. -/
def settle (c : Crowd α) (thread number : Nat) (call : Call α) :
    Option (Result α) × Monitor α → Crowd α
  | (none, monitor) => c.sleep thread number monitor
  | (some result, monitor) => c.finish ⟨number, thread, call, result⟩ monitor

/-- A thread returns. -/
def depart (c : Crowd α) (thread : Nat) (deed : Deed α) : Crowd α :=
  { c with
    stage := Function.update c.stage thread .idle
    history := c.history ++ [.returned deed] }

/-- One step of one thread. -/
inductive Step [Item α] : Crowd α → Crowd α → Prop where
  /-- A thread makes a call. -/
  | make {c : Crowd α} (thread : Nat) (call : Call α) (idle : c.stage thread = .idle) :
    Step c (c.make thread call)
  /-- A thread that has made a call has the lock. -/
  | enter {c : Crowd α} (thread pick : Nat) {number : Nat} {call : Call α}
    (called : c.stage thread = .called number call) :
    Step c (c.settle thread number call (c.monitor.act thread pick call))
  /-- A thread that was signalled has the lock again. -/
  | resume {c : Crowd α} (thread : Nat) {number : Nat}
    (waiting : c.stage thread = .waiting number) (signalled : thread ∈ c.monitor.signalled) :
    Step c (c.settle thread number .dequeue (c.monitor.retake thread))
  /-- A sleeping thread wakes for no reason. -/
  | stir {c : Crowd α} (thread : Nat) (parked : thread ∈ c.monitor.parked) :
    Step c { c with monitor := c.monitor.wake thread }
  /-- A thread whose call is done returns. -/
  | depart {c : Crowd α} (thread : Nat) {deed : Deed α} (leaving : c.stage thread = .leaving deed) :
    Step c (c.depart thread deed)

/-- Steps of threads lead from one crowd to another. -/
abbrev Leads [Item α] : Crowd α → Crowd α → Prop :=
  Relation.ReflTransGen Step

/-- A crowd that steps of threads can lead to from the beginning. -/
def Reachable [Item α] (c : Crowd α) : Prop :=
  Leads .empty c

/-! ### What a step comes to -/

variable {c c' : Crowd α} {thread number : Nat} {call : Call α} {result : Result α}
  {monitor : Monitor α} {deed : Deed α}

@[simp]
theorem deeds_make : (c.make thread call).deeds = c.deeds :=
  deedsOf_called

@[simp]
theorem deeds_finish : (c.finish deed monitor).deeds = c.deeds ++ [deed] :=
  deedsOf_done

@[simp]
theorem deeds_depart : (c.depart thread deed).deeds = c.deeds :=
  deedsOf_returned

/-- What a step comes to: a thread that has the lock falls asleep or ends its call. -/
inductive Move [Item α] : Crowd α → Crowd α → Prop where
  /-- A thread makes a call. -/
  | make {c : Crowd α} {thread : Nat} {call : Call α} (idle : c.stage thread = .idle) :
    Move c (c.make thread call)
  /-- A thread that asks for an item must wait, and falls asleep. -/
  | sleep {c : Crowd α} {thread number : Nat} (called : c.stage thread = .called number .dequeue)
    (wait : c.queue.mustWait = true) :
    Move c (c.sleep thread number { c.monitor with parked := c.monitor.parked ++ [thread] })
  /-- A thread ends its call as soon as it has the lock. -/
  | finish {c : Crowd α} {pick : Nat} {deed : Deed α} {monitor : Monitor α}
    (called : c.stage deed.thread = .called deed.number deed.call)
    (ends : c.monitor.Ends pick deed.call deed.result monitor) : Move c (c.finish deed monitor)
  /-- A thread that was roused must wait on, and falls asleep again. -/
  | sleepAgain {c : Crowd α} {thread number : Nat} (waiting : c.stage thread = .waiting number)
    (signalled : thread ∈ c.monitor.signalled) (wait : c.queue.mustWait = true)
    (sound : c.monitor.poisoned = false) :
    Move c (c.sleep thread number { c.monitor with
      parked := c.monitor.parked ++ [thread], signalled := c.monitor.signalled.erase thread })
  /-- A thread that was roused ends its call. -/
  | finishLate {c : Crowd α} {thread number : Nat} {result : Result α} {monitor : Monitor α}
    (waiting : c.stage thread = .waiting number) (signalled : thread ∈ c.monitor.signalled)
    (ends : c.monitor.EndsLate thread result monitor) :
    Move c (c.finish ⟨number, thread, .dequeue, result⟩ monitor)
  /-- A sleeping thread wakes for no reason. -/
  | stir {c : Crowd α} {thread : Nat} (parked : thread ∈ c.monitor.parked) :
    Move c { c with monitor := c.monitor.wake thread }
  /-- A thread whose call is done returns. -/
  | depart {c : Crowd α} {thread : Nat} {deed : Deed α} (leaving : c.stage thread = .leaving deed) :
    Move c (c.depart thread deed)

/-- **Every step is one of these moves.** -/
theorem Step.move [Item α] (hstep : Step c c') : Move c c' := by
  cases hstep with
  | make thread call idle => exact .make idle
  | @enter thread pick number call called =>
    rcases hact : c.monitor.act thread pick call with ⟨_ | result, monitor⟩
    · obtain ⟨rfl, wait, rfl⟩ := Monitor.act_sleeps hact
      exact .sleep called wait
    · show Move c (c.finish ⟨number, thread, call, result⟩ monitor)
      exact .finish called (Monitor.act_ends hact)
  | @resume thread number waiting signalled =>
    rcases hretake : c.monitor.retake thread with ⟨_ | result, monitor⟩
    · obtain ⟨wait, sound, rfl⟩ := Monitor.retake_sleeps hretake
      exact .sleepAgain waiting signalled wait sound
    · exact .finishLate waiting signalled (Monitor.retake_ends hretake)
  | stir thread parked => exact .stir parked
  | depart thread leaving => exact .depart leaving

/-- A stage is that of the thread that went on, or was there before. -/
theorem stage_update_cases {stage : Nat → Stage α} {other : Nat} {s s' : Stage α}
    (h : Function.update stage other s thread = s') :
    (thread = other ∧ s = s') ∨ stage thread = s' := by
  rcases eq_or_ne thread other with rfl | hne
  · exact .inl ⟨rfl, by simpa using h⟩
  · exact .inr (by simpa [hne] using h)

/-! ### The threads that wait -/

/-- The monitor's lists are the threads that wait, each once. -/
structure Listed (c : Crowd α) : Prop where
  /-- No thread is listed twice. -/
  nodup : c.monitor.waiting.Nodup
  /-- The threads listed are those that wait. -/
  mem_iff : ∀ t, t ∈ c.monitor.waiting ↔ (c.stage t).Waits

theorem listed_empty : (empty : Crowd α).Listed where
  nodup := List.nodup_nil
  mem_iff t := by simp [Monitor.waiting, empty, Monitor.empty, Stage.Waits]

/-- A thread that begins to wait is listed. -/
theorem Listed.grow (h : c.Listed)
    (hstage : c'.stage = Function.update c.stage thread (.waiting number))
    (hperm : c'.monitor.waiting.Perm (thread :: c.monitor.waiting))
    (hnew : ¬ (c.stage thread).Waits) : c'.Listed where
  nodup := by
    have hnot : thread ∉ c.monitor.waiting := fun hmem ↦ hnew ((h.mem_iff thread).1 hmem)
    exact hperm.nodup_iff.2 (List.nodup_cons.2 ⟨hnot, h.nodup⟩)
  mem_iff t := by
    rw [hperm.mem_iff, List.mem_cons, h.mem_iff, hstage]
    rcases eq_or_ne t thread with rfl | hne
    · simp [Stage.Waits]
    · simp [hne]

/-- A thread that goes on waiting, or that does not wait before and after, changes no list. -/
theorem Listed.keep (h : c.Listed) {s : Stage α}
    (hstage : c'.stage = Function.update c.stage thread s)
    (hperm : c'.monitor.waiting.Perm c.monitor.waiting)
    (hsame : s.Waits ↔ (c.stage thread).Waits) : c'.Listed where
  nodup := hperm.nodup_iff.2 h.nodup
  mem_iff t := by
    rw [hperm.mem_iff, h.mem_iff, hstage]
    rcases eq_or_ne t thread with rfl | hne
    · simp [hsame]
    · simp [hne]

/-- A thread that waits no longer is struck off. -/
theorem Listed.shrink (h : c.Listed) {s : Stage α}
    (hstage : c'.stage = Function.update c.stage thread s)
    (hperm : c.monitor.waiting.Perm (thread :: c'.monitor.waiting)) (hgone : ¬ s.Waits) :
    c'.Listed := by
  obtain ⟨hnot, hnodup⟩ := List.nodup_cons.1 (hperm.nodup_iff.1 h.nodup)
  refine ⟨hnodup, fun t ↦ ?_⟩
  rw [hstage]
  rcases eq_or_ne t thread with rfl | hne
  · simp [hnot, hgone]
  · rw [Function.update_of_ne hne, ← h.mem_iff, hperm.mem_iff, List.mem_cons]
    simp [hne]

variable [Item α]

theorem reachable_empty : Reachable (empty : Crowd α) := .refl

theorem Reachable.step (h : Reachable c) (hstep : Step c c') : Reachable c' :=
  h.tail hstep

theorem Listed.step (h : c.Listed) (hstep : Step c c') : c'.Listed := by
  cases hstep.move with
  | make idle => exact h.keep rfl .rfl (by simp [idle, Stage.Waits])
  | sleep called wait =>
    refine h.grow rfl ?_ (by simp [called, Stage.Waits])
    simp [Crowd.sleep, Monitor.waiting, List.perm_middle]
  | @finish pick deed monitor called ends =>
    refine h.keep rfl ?_ (by simp [called, Stage.Waits])
    show (monitor.parked ++ monitor.signalled).Perm c.monitor.waiting
    rw [ends.parked, ends.signalled]
    exact c.monitor.waiting_signal pick deed.call deed.result
  | @sleepAgain thread number waiting signalled =>
    refine h.keep rfl ?_ (by simp [waiting, Stage.Waits])
    -- The thread is struck off the signalled and listed among the sleeping.
    have hperm := (List.perm_cons_erase signalled).symm.append_left c.monitor.parked
    simpa [Crowd.sleep, Monitor.waiting, List.perm_middle] using hperm
  | @finishLate thread number result monitor waiting signalled ends =>
    refine h.shrink rfl ?_ (by simp [Stage.Waits])
    show (c.monitor.parked ++ c.monitor.signalled).Perm
      (thread :: (monitor.parked ++ monitor.signalled))
    rw [ends.parked, ends.signalled]
    exact ((List.perm_cons_erase signalled).append_left _).trans List.perm_middle
  | @stir thread parked =>
    have hperm := Monitor.waiting_wake parked
    exact ⟨hperm.nodup_iff.2 h.nodup, fun t ↦ hperm.mem_iff.trans (h.mem_iff t)⟩
  | depart leaving => exact h.keep rfl .rfl (by simp [leaving, Stage.Waits])

theorem listed_of_reachable (h : Reachable c) : c.Listed := by
  induction h with
  | refl => exact listed_empty
  | tail _ hstep ih => exact ih.step hstep

/-! ### The calls that have been done -/

/-- A thread that leaves did so before the step, or the step has ended its call. -/
theorem Step.leaving (hstep : Step c c') (h : c'.stage thread = .leaving deed) :
    c.stage thread = .leaving deed ∨
      (∃ pick, c.stage thread = .called deed.number deed.call ∧
        c.monitor.Ends pick deed.call deed.result c'.monitor) ∨
      (c.Roused thread ∧ c.stage thread = .waiting deed.number ∧ deed.call = .dequeue ∧
        c.monitor.EndsLate thread deed.result c'.monitor) := by
  cases hstep.move with
  | make =>
    rcases stage_update_cases h with ⟨-, hnew⟩ | hold
    · cases hnew
    · exact .inl hold
  | sleep =>
    rcases stage_update_cases h with ⟨-, hnew⟩ | hold
    · cases hnew
    · exact .inl hold
  | @finish pick _ _ called ends =>
    rcases stage_update_cases h with ⟨rfl, hnew⟩ | hold
    · obtain rfl := Stage.leaving.inj hnew
      exact .inr (.inl ⟨pick, called, ends⟩)
    · exact .inl hold
  | sleepAgain =>
    rcases stage_update_cases h with ⟨-, hnew⟩ | hold
    · cases hnew
    · exact .inl hold
  | @finishLate _ number _ _ waiting signalled ends =>
    rcases stage_update_cases h with ⟨rfl, hnew⟩ | hold
    · obtain rfl := Stage.leaving.inj hnew
      exact .inr (.inr ⟨⟨⟨number, waiting⟩, signalled⟩, waiting, rfl, ends⟩)
    · exact .inl hold
  | stir => exact .inl h
  | depart =>
    rcases stage_update_cases h with ⟨-, hnew⟩ | hold
    · cases hnew
    · exact .inl hold

/-- A step ends a call. -/
structure Ends (c : Crowd α) (deed : Deed α) (c' : Crowd α) : Prop where
  /-- The call has its effect. -/
  effect : Queue.Effect c.queue deed.call deed.result c'.queue
  /-- A thread that waits for an item need not wait, or the lock is poisoned. -/
  ready : deed.call = .dequeue → c.queue.mustWait = false ∨ c.monitor.poisoned = true
  /-- A test that breaks off poisons the lock. -/
  poisoned : c'.monitor.poisoned = (c.monitor.poisoned || deed.result.interrupted)
  /-- The call is the last deed then. -/
  deeds : c'.deeds = c.deeds ++ [deed]

/-- A step either leaves the queue, the lock and the deeds as they are, or ends a call. -/
theorem Step.ends (hstep : Step c c') :
    (c'.queue = c.queue ∧ c'.monitor.poisoned = c.monitor.poisoned ∧ c'.deeds = c.deeds) ∨
      ∃ deed, c.Ends deed c' := by
  cases hstep.move with
  | make => exact .inl ⟨rfl, rfl, deeds_make⟩
  | sleep => exact .inl ⟨rfl, rfl, rfl⟩
  | @finish _ deed _ called ends =>
    exact .inr ⟨deed, ends.effect, fun hcall ↦ .inl (ends.ready hcall), ends.poisoned, deeds_finish⟩
  | sleepAgain => exact .inl ⟨rfl, rfl, rfl⟩
  | @finishLate _ _ result _ waiting signalled ends =>
    -- What the thread is given is an item or none, so no test has broken off.
    have hsound : result.interrupted = false := by
      rcases ends.effect.of_takes (.inl rfl) with ⟨a, items, -, -, rfl, -⟩ | ⟨-, rfl, -⟩ <;> rfl
    refine .inr ⟨_, ends.effect, fun _ ↦ ends.ready, ?_, deeds_finish⟩
    rw [hsound, Bool.or_false]
    exact ends.poisoned
  | stir parked =>
    refine .inl ⟨?_, ?_, rfl⟩
    · rw [queue, Monitor.wake_eq parked]
    · rw [Monitor.wake_eq parked]
  | depart => exact .inl ⟨rfl, rfl, deeds_depart⟩

/-- A step that adds a deed ends it. -/
theorem Step.ends_of_deeds (hstep : Step c c') (hdeeds : c'.deeds = c.deeds ++ [deed]) :
    c.Ends deed c' := by
  rcases hstep.ends with ⟨-, -, hsame⟩ | ⟨deed', hends⟩
  · simp [hsame] at hdeeds
  · obtain rfl := List.singleton_inj.1 (List.append_cancel_left (hends.deeds.symm.trans hdeeds))
    exact hends

/-- A call that takes no waiting ends in the critical section in which it was begun. -/
theorem Step.ends_at_once (hstep : Step c c') (hdeeds : c'.deeds = c.deeds ++ [deed])
    (hcall : deed.call ≠ .dequeue) :
    ∃ pick, c.monitor.Ends pick deed.call deed.result c'.monitor ∧
      c.stage deed.thread = .called deed.number deed.call ∧
      c'.stage = Function.update c.stage deed.thread (.leaving deed) := by
  have hgrows : c'.deeds ≠ c.deeds := by simp [hdeeds]
  cases hstep.move with
  | make => exact absurd deeds_make hgrows
  | sleep => exact absurd rfl hgrows
  | @finish pick _ _ called ends =>
    obtain rfl := List.singleton_inj.1 (List.append_cancel_left (deeds_finish.symm.trans hdeeds))
    exact ⟨pick, ends, called, rfl⟩
  | sleepAgain => exact absurd rfl hgrows
  | finishLate =>
    -- A thread that has slept asked for an item.
    obtain rfl := List.singleton_inj.1 (List.append_cancel_left (deeds_finish.symm.trans hdeeds))
    exact absurd rfl hcall
  | stir => exact absurd rfl hgrows
  | depart => exact absurd deeds_depart hgrows

/-- **The deeds lead the queue to where it is.** -/
theorem runs_of_reachable (h : Reachable c) :
    Queue.Runs Queue.Effect .empty c.dealings c.queue := by
  induction h with
  | refl => exact .nil
  | tail _ hstep ih =>
    rcases hstep.ends with ⟨hqueue, -, hdeeds⟩ | ⟨deed, hends⟩
    · rwa [dealings, hdeeds, hqueue]
    · rw [dealings, hends.deeds, List.map_append]
      exact ih.snoc hends.effect

/-- The lock is poisoned if and only if a test has broken off under it. -/
theorem poisoned_iff (h : Reachable c) :
    c.monitor.poisoned = true ↔ ∃ deed ∈ c.deeds, deed.result.interrupted = true := by
  induction h with
  | refl => simp [empty, Monitor.empty, deeds, deedsOf]
  | tail _ hstep ih =>
    rcases hstep.ends with ⟨-, hpoisoned, hdeeds⟩ | ⟨deed, hends⟩
    · rw [hpoisoned, hdeeds, ih]
    · rw [hends.poisoned, hends.deeds, Bool.or_eq_true, ih]
      simp [or_and_right, exists_or]

end Crowd

end QueueJournal
