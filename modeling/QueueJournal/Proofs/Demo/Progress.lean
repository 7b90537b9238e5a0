import Mathlib.Data.Nat.Nth
import QueueJournal.Program
import QueueJournal.Proofs.Demo.Attendance
import QueueJournal.Proofs.Settings.Lookup

/-!
# A demonstration comes to its end

As long as a demonstration with at least one consumer is not over, some worker can take a step that
brings it further: a look of the coordinator at a queue that is not empty and a waking for no reason
do not count as such. Every step that does makes the work that is left smaller, so no demonstration
goes on forever unless consumers keep waking for no reason.

A demonstration could be stuck only if a consumer slept while items lie in the queue, or slept on
after it is closed. Neither happens, since a demonstration is a crowd and no wakeup is lost in it.
-/

namespace QueueJournal

/-- Settings ask for somebody on either side of the queue. -/
theorem Settings.pos_of_ofLookup {lookup : String → Option String} {settings : Settings}
    (h : Settings.ofLookup lookup = .ok settings) :
    0 < settings.plan.producers ∧ 0 < settings.plan.consumers := by
  cases outcome_iff.1 h with
  | settles _ somebody =>
    exact ⟨Nat.pos_of_ne_zero somebody.1, Nat.pos_of_ne_zero somebody.2⟩

namespace Demo

/-- A sleeping consumer wakes for no reason. -/
def Action.isStir : Action → Bool
  | .stir _ => true
  | _ => false

namespace State

variable {plan : Plan} {s s' : State} {action : Action}

/-! ### The work that is left -/

theorem totalWork_eq_sum {ω : Type} (workOf : ω → Nat) (workers : List ω) :
    totalWork workOf workers = (workers.map workOf).sum := by
  induction workers with
  | nil => rfl
  | cons worker workers ih => rw [totalWork, ih, List.map_cons, List.sum_cons]

/-- What the work of one worker changes by is what the work of all changes by. -/
theorem totalWork_set {ω : Type} {workers : List ω} {i : Nat} {old : ω} (workOf : ω → Nat)
    (found : workers[i]? = some old) (new : ω) :
    totalWork workOf (workers.set i new) + workOf old = totalWork workOf workers + workOf new := by
  rw [totalWork_eq_sum, totalWork_eq_sum, List.map_set]
  exact sum_set_add (by rw [List.getElem?_map, found, Option.map_some]) _

/-- An item that is put signals one consumer at most. -/
theorem length_signalled_notifyOne_le {α : Type} (m : Monitor α) (pick : Nat) :
    (m.notifyOne pick).signalled.length ≤ m.signalled.length + 1 := by
  rcases m.notifyOne_cases pick with ⟨-, heq⟩ | ⟨thread, hmem, heq⟩
  · rw [heq]
    exact Nat.le_succ _
  · rw [heq, Monitor.wake_eq hmem, List.length_append, List.length_singleton]

/-- An item that is taken leaves the queue and is charged to the consumer. -/
theorem consumerWork_given {q q' : Queue String} {item : Option String}
    (effect : Queue.Effect q .dequeue (.item item) q') (ready : q.mustWait = false)
    (consumed : Nat) :
    consumerWork ⟨.stamping item, consumed⟩ + 3 * q'.length ≤ 3 + 3 * q.length := by
  rcases effect.of_ready ready with ⟨a, items, -, head, rfl, rfl⟩ | ⟨-, rfl, rfl⟩
  · simp only [consumerWork, Queue.length, head, List.length_cons, Option.isSome_some, if_true]
    omega
  · simp [consumerWork]

/-- No more consumers sleep than there are. -/
theorem length_parked_le (h : Reachable plan s) : s.monitor.parked.length ≤ plan.consumers := by
  have hnodup : s.monitor.parked.Nodup := (nodup_waiting_of_reachable h).of_append_left
  have hsubset : s.monitor.parked ⊆ List.range plan.consumers := by
    intro c hc
    obtain ⟨consumer, found, -⟩ := (mem_waiting_iff h).1 (List.mem_append_left _ hc)
    exact List.mem_range.2 ((orderly_of_reachable h).lt_consumers found)
  simpa using (List.subperm_of_subset hnodup hsubset).length_le

/-- **A step that brings the demonstration further leaves less work.** -/
theorem work_lt_of_step (h : Reachable plan s) (hstep : s.Step plan action s')
    (hprogress : s.isProgress action = true) : s'.work plan < s.work plan := by
  have horder := orderly_of_reachable h
  cases hstep.move with
  | @hireConsumer now started consumer stage found =>
    have hlt := horder.lt_consumers found
    have hunborn := horder.consumer_unborn stage found
    have htotal := totalWork_set consumerWork found { consumer with stage := .asking }
    simp only [consumerWork, hunborn] at htotal
    simp only [work, stage, coordinatorWork]
    omega
  | consumersHired stage noneLeft =>
    simp only [work, stage, coordinatorWork]
    omega
  | @hireProducer now started producer stage found =>
    have hlt := horder.lt_producers found
    have hunborn := horder.producer_unborn stage found
    have htotal := totalWork_set (producerWork plan) found { producer with stage := .ready }
    simp only [producerWork, hunborn] at htotal
    simp only [work, stage, coordinatorWork]
    omega
  | producersHired stage noneLeft =>
    simp only [work, stage, coordinatorWork]
    omega
  | countProducer stage found finished =>
    have hlt := horder.lt_producers found
    simp only [work, stage, coordinatorWork]
    omega
  | producersEnded stage noneLeft =>
    simp only [work, stage, coordinatorWork]
    omega
  | pollInVain stage full => simp [isProgress, stage, Queue.isEmpty, full] at hprogress
  | pollEmpty stage empty =>
    simp only [work, stage, coordinatorWork]
    omega
  | stampClosing stage =>
    simp only [work, stage, coordinatorWork]
    omega
  | @close now event discarded monitor stage acts =>
    -- All consumers that sleep are signalled, which the coordinator has been charged for.
    have hends := Monitor.act_ends (acts 0)
    have hsleeping := length_parked_le h
    have hopen : s.monitor.queue.closed = false := by simp [horder.closed, stage]
    obtain ⟨rfl, hqueue⟩ := hends.effect.of_close hopen
    have hsignalled := hends.signalled
    simp only [Monitor.signal, Monitor.notifyAll] at hsignalled
    simp only [work, stage, coordinatorWork, hsignalled, hqueue, Queue.length, List.length_append,
      List.length_nil]
    omega
  | fileClosing stage =>
    simp only [work, stage, coordinatorWork]
    omega
  | countConsumer stage found finished =>
    have hlt := horder.lt_consumers found
    simp only [work, stage, coordinatorWork]
    omega
  | consumersEnded stage noneLeft =>
    simp only [work, stage, coordinatorWork]
    omega
  | @put now p pick producer index monitor found ready more acts =>
    have hends := Monitor.act_ends (acts 0)
    have hsignalled := length_signalled_notifyOne_le s.monitor pick
    have htotal := totalWork_set (producerWork plan) found { producer with
      stage := .stamping (some index), accepted := producer.accepted + 1 }
    simp only [producerWork, ready] at htotal
    simp only [work, Queue.length, hends.effect.of_accepted.2, hends.signalled, Monitor.signal,
      List.length_append, List.length_singleton]
    omega
  | putInVain found ready more acts =>
    exact absurd (acts 0) (horder.not_refused found (by simp [ready]))
  | @endProducer now p pick producer found ready enough =>
    have htotal := totalWork_set (producerWork plan) found { producer with stage := .finished }
    simp only [producerWork, ready] at htotal
    simp only [work]
    omega
  | @stampPut now p pick producer index found stamping =>
    have htotal := totalWork_set (producerWork plan) found { producer with
      stage := .filing (.enqueue ⟨s.nextId, now⟩ (producerName p) (itemName p (producer.done + 1))
        index) }
    simp only [producerWork, stamping] at htotal
    simp only [work]
    omega
  | @filePut now p pick producer event found filing =>
    have htotal := totalWork_set (producerWork plan) found { producer with
      stage := .ready, done := producer.done + 1 }
    simp only [producerWork, filing] at htotal
    simp only [work]
    omega
  | @sleep now c consumer monitor found asking acts =>
    obtain ⟨-, -, rfl⟩ := Monitor.act_sleeps acts
    have htotal := totalWork_set consumerWork found { consumer with stage := .waiting }
    simp only [consumerWork, asking] at htotal
    simp only [work]
    omega
  | @take now c consumer item monitor found asking acts =>
    have hends := Monitor.act_ends acts
    have hgiven := consumerWork_given hends.effect (hends.ready rfl) consumer.consumed
    have htotal := totalWork_set consumerWork found { consumer with stage := .stamping item }
    rw [show consumerWork consumer = 4 by rw [consumerWork, asking]] at htotal
    simp only [work, hends.signalled, Monitor.signal]
    omega
  | @sleepAgain now c consumer monitor found waiting signalled retakes =>
    obtain ⟨-, -, rfl⟩ := Monitor.retake_sleeps retakes
    have herase := List.length_erase_add_one signalled
    have htotal := totalWork_set consumerWork found { consumer with stage := .waiting }
    simp only [consumerWork, waiting] at htotal
    simp only [work]
    omega
  | @takeLate now c consumer item monitor found waiting signalled retakes =>
    have hends := Monitor.retake_ends retakes
    have hready := horder.ready_of_retake retakes
    have hgiven := consumerWork_given hends.effect hready consumer.consumed
    have herase := List.length_erase_add_one signalled
    have htotal := totalWork_set consumerWork found { consumer with stage := .stamping item }
    rw [show consumerWork consumer = 3 by rw [consumerWork, waiting]] at htotal
    simp only [work, hends.signalled]
    omega
  | @stampTake now c consumer item found stamping =>
    have htotal := totalWork_set consumerWork found { consumer with
      stage := .filing (.dequeue ⟨s.nextId, now⟩ (consumerName c) item) }
    have hone : consumerWork consumer = consumerWork { consumer with
        stage := .filing (.dequeue ⟨s.nextId, now⟩ (consumerName c) item) } + 1 := by
      rw [consumerWork, stamping]
      cases item <;> rfl
    simp only [work]
    omega
  | @fileTake now c consumer event found filing accepted =>
    have htotal := totalWork_set consumerWork found ⟨.asking, consumer.consumed + 1⟩
    simp only [consumerWork, filing, accepted, if_true] at htotal
    simp only [work]
    omega
  | @endConsumer now c consumer event found filing refused =>
    have htotal := totalWork_set consumerWork found { consumer with stage := .finished }
    simp only [consumerWork, filing, refused, Bool.false_eq_true, if_false] at htotal
    simp only [work]
    omega
  | stir parked => cases hprogress

/-! ### Somebody can always go on -/

/-- A worker can take a step that brings the demonstration further. -/
def CanAdvance (plan : Plan) (s : State) : Prop :=
  ∃ action ∈ plan.actions, s.isProgress action = true ∧ ∃ s', s.next? plan action = some s'

theorem canAdvance_of_coordinator (hprogress : s.isProgress .coordinator = true)
    (hnext : ∃ s', s.coordinatorStep? = some s') : s.CanAdvance plan :=
  ⟨.coordinator, by simp [Plan.actions], hprogress, hnext⟩

/-- A producer that has been started and has not ended can go on. -/
theorem canAdvance_of_producer (h : Reachable plan s) {p : Nat} {producer : Producer}
    (found : s.producers[p]? = some producer) (born : producer.stage ≠ .unborn)
    (live : producer.stage ≠ .finished) : s.CanAdvance plan := by
  have hlt := (orderly_of_reachable h).lt_producers found
  refine ⟨.producer p 0, by simp [Plan.actions, hlt], rfl, ?_⟩
  rw [next?, found, Option.bind_some, producerStep?]
  cases hstage : producer.stage with
  | unborn => exact absurd hstage born
  | finished => exact absurd hstage live
  | ready => by_cases hmore : producer.done < plan.items <;> simp [hmore]
  | stamping index => exact ⟨_, rfl⟩
  | filing event => exact ⟨_, rfl⟩

/-- A consumer that waits can go on once it has been signalled. -/
theorem canAdvance_of_signalled (h : Reachable plan s) {c : Nat} (hc : c ∈ s.monitor.signalled) :
    s.CanAdvance plan := by
  obtain ⟨consumer, found, waiting⟩ := (mem_waiting_iff h).1 (List.mem_append_right _ hc)
  have hlt := (orderly_of_reachable h).lt_consumers found
  refine ⟨.consumer c, by simp [Plan.actions, hlt], rfl, ?_⟩
  rw [next?, found, Option.bind_some, consumerStep?, show consumer.stage = .waiting from waiting]
  exact ⟨_, if_pos hc⟩

/-- While a consumer that has been started has not ended, some consumer can go on, unless all that
wait sleep. -/
theorem canAdvance_of_consumer (h : Reachable plan s) {c : Nat} {consumer : Consumer}
    (found : s.consumers[c]? = some consumer) (born : consumer.stage ≠ .unborn)
    (live : consumer.stage ≠ .finished)
    (hsignalled : s.monitor.parked ≠ [] → s.monitor.signalled ≠ []) : s.CanAdvance plan := by
  have hlt := (orderly_of_reachable h).lt_consumers found
  have canAdvance_of_next (hnext : ∃ s', s.consumerStep? c consumer = some s') :
      s.CanAdvance plan :=
    ⟨.consumer c, by simp [Plan.actions, hlt], rfl, by rwa [next?, found, Option.bind_some]⟩
  cases hstage : consumer.stage with
  | unborn => exact absurd hstage born
  | finished => exact absurd hstage live
  | asking => exact canAdvance_of_next (by simp [consumerStep?, hstage])
  | stamping item => exact canAdvance_of_next (by simp [consumerStep?, hstage])
  | filing event =>
    refine canAdvance_of_next ?_
    by_cases haccepted : event.accepted = true <;> simp [consumerStep?, hstage, haccepted]
  | waiting =>
    rcases List.mem_append.1 ((mem_waiting_iff h).2 ⟨consumer, found, hstage⟩) with hc | hc
    · obtain ⟨other, hother⟩ := List.exists_mem_of_ne_nil _ (hsignalled (List.ne_nil_of_mem hc))
      exact canAdvance_of_signalled h hother
    · exact canAdvance_of_signalled h hc

/-- **A demonstration that is not over can go on.** -/
theorem canAdvance (h : Reachable plan s) (hplan : 0 < plan.consumers)
    (hlive : s.isFinished = false) : s.CanAdvance plan := by
  have horder := orderly_of_reachable h
  have hattended := attended_of_reachable h
  cases stage : s.coordinator with
  | hiringConsumers started =>
    refine canAdvance_of_coordinator (by simp [isProgress, stage]) ?_
    cases found : s.consumers[started]? <;> simp [coordinatorStep?, stage, found]
  | hiringProducers started =>
    refine canAdvance_of_coordinator (by simp [isProgress, stage]) ?_
    cases found : s.producers[started]? <;> simp [coordinatorStep?, stage, found]
  | awaitingProducers ended =>
    cases found : s.producers[ended]? with
    | none =>
      exact canAdvance_of_coordinator (by simp [isProgress, stage])
        (by simp [coordinatorStep?, stage, found])
    | some producer =>
      by_cases hfinished : producer.stage = .finished
      · exact canAdvance_of_coordinator (by simp [isProgress, stage])
          (by simp [coordinatorStep?, stage, found, hfinished])
      · have hborn : producer.stage ≠ .unborn := by
          simp [(horder.producer ended producer found).hired, stage]
        exact canAdvance_of_producer h found hborn hfinished
  | polling =>
    by_cases hempty : s.monitor.queue.isEmpty = true
    · exact canAdvance_of_coordinator (by simp [isProgress, stage, hempty])
        (by simp [coordinatorStep?, stage])
    · -- An item is left, so of the consumers that sleep one has been signalled for it.
      have hlt : 0 < s.consumers.length := horder.length_consumers ▸ hplan
      have found := List.getElem?_eq_getElem hlt
      have hfits := horder.consumer 0 _ found
      refine canAdvance_of_consumer h found (by simp [hfits.hired, stage]) ?_ ?_
      · intro hfinished
        have hsound := hfits.sound
        rw [stage] at hsound
        generalize s.consumers[0] = consumer at hsound hfinished
        cases hsound <;> simp_all
      · intro hparked hnil
        obtain ⟨-, hle⟩ := hattended hparked
        simp_all [Queue.isEmpty]
  | stamping =>
    exact canAdvance_of_coordinator (by simp [isProgress, stage])
      (by simp [coordinatorStep?, stage])
  | closing event =>
    exact canAdvance_of_coordinator (by simp [isProgress, stage])
      (by simp [coordinatorStep?, stage])
  | filing event =>
    exact canAdvance_of_coordinator (by simp [isProgress, stage])
      (by simp [coordinatorStep?, stage])
  | awaitingConsumers ended =>
    cases found : s.consumers[ended]? with
    | none =>
      exact canAdvance_of_coordinator (by simp [isProgress, stage])
        (by simp [coordinatorStep?, stage, found])
    | some consumer =>
      by_cases hfinished : consumer.stage = .finished
      · exact canAdvance_of_coordinator (by simp [isProgress, stage])
          (by simp [coordinatorStep?, stage, found, hfinished])
      · -- The queue is closed, so nobody sleeps.
        have hborn : consumer.stage ≠ .unborn := by
          simp [(horder.consumer ended consumer found).hired, stage]
        have hclosed : s.monitor.queue.closed = true := by simp [horder.closed, stage]
        refine canAdvance_of_consumer h found hborn hfinished fun hparked ↦ ?_
        simp [(hattended hparked).1] at hclosed
  | finished => simp [isFinished, stage] at hlive

/-! ### Courses without an end -/

/-- A step that brings the demonstration no further leaves the work as it is, but for a consumer
that wakes for no reason and is charged for looking at the queue. -/
theorem work_le_of_step (hstep : s.Step plan action s') (hidle : s.isProgress action = false) :
    s'.work plan ≤ s.work plan + if action.isStir then 1 else 0 := by
  cases hstep.move with
  | pollInVain stage => exact Nat.le_refl _
  | pollEmpty stage empty => simp [isProgress, stage, Queue.isEmpty, empty] at hidle
  | stir parked => simp [work, Monitor.wake_eq parked, Action.isStir, Nat.add_assoc]
  | put | putInVain | endProducer | stampPut | filePut => cases hidle
  | sleep | take | sleepAgain | takeLate | stampTake | fileTake | endConsumer => cases hidle
  | hireConsumer stage | consumersHired stage | hireProducer stage | producersHired stage
  | countProducer stage | producersEnded stage | stampClosing stage | close stage
  | fileClosing stage | countConsumer stage | consumersEnded stage =>
    simp [isProgress, stage] at hidle

/-- Steps that go on forever from a state. -/
structure Course (plan : Plan) (s : State) where
  /-- The states that are passed. -/
  state : Nat → State
  /-- The steps that lead from one to the next. -/
  action : Nat → Action
  /-- They begin with the given state. -/
  start : state 0 = s
  /-- Each step is one that somebody can take. -/
  step : ∀ i, (state i).Step plan (action i) (state (i + 1))

namespace Course

/-- The `i`-th step brings the demonstration further. -/
def progresses (course : Course plan s) (i : Nat) : Bool :=
  (course.state i).isProgress (course.action i)

/-- In the `i`-th step a consumer wakes for no reason. -/
def stirs (course : Course plan s) (i : Nat) : Bool :=
  (course.action i).isStir

theorem reachable (course : Course plan s) (h : Reachable plan s) (i : Nat) :
    Reachable plan (course.state i) := by
  induction i with
  | zero => rwa [course.start]
  | succ i ih => exact ih.step (course.step i)

/-- Every step that brings the demonstration further is paid for by the work at the beginning or by
a waking for no reason. -/
theorem work_add_count_le (course : Course plan s) (h : Reachable plan s) (n : Nat) :
    (course.state n).work plan + n.count (course.progresses · = true) ≤
      s.work plan + n.count (course.stirs · = true) := by
  induction n with
  | zero => simp [course.start]
  | succ n ih =>
    have hstep := course.step n
    rw [Nat.count_succ, Nat.count_succ, progresses, stirs]
    cases hprogress : (course.state n).isProgress (course.action n) with
    | true =>
      have hlt := work_lt_of_step (course.reachable h n) hstep hprogress
      rw [if_pos rfl]
      omega
    | false =>
      have hle := work_le_of_step hstep hprogress
      rw [if_neg Bool.false_ne_true]
      omega

/-- **Unless consumers keep waking for no reason, only finitely many steps bring the demonstration
further.** -/
theorem finite_progresses (course : Course plan s) (h : Reachable plan s)
    (hstirs : {i | course.stirs i = true}.Finite) : {i | course.progresses i = true}.Finite := by
  by_contra hinfinite
  -- One step more than can be paid for.
  let bound := s.work plan + hstirs.toFinset.card + 1
  have hprogresses : bound = (Nat.nth (course.progresses · = true) bound).count
      (course.progresses · = true) := (Nat.count_nth_of_infinite hinfinite bound).symm
  have hpaid := course.work_add_count_le h (Nat.nth (course.progresses · = true) bound)
  have hfew : (Nat.nth (course.progresses · = true) bound).count (course.stirs · = true) ≤
      hstirs.toFinset.card := by
    rw [Nat.count_eq_card_filter_range]
    exact Finset.card_le_card fun i hi ↦ by simpa using (Finset.mem_filter.1 hi).2
  omega

end Course

/-! ### The end -/

/-- A demonstration whose work is done is over. -/
theorem isFinished_advance (h : Reachable plan s) (hplan : 0 < plan.consumers) {steps : Nat}
    (hsteps : s.work plan ≤ steps) :
    Reachable plan (s.advance plan steps) ∧ (s.advance plan steps).isFinished = true := by
  induction steps generalizing s with
  | zero =>
    refine ⟨h, ?_⟩
    by_contra hlive
    obtain ⟨action, -, hprogress, s', hnext⟩ := canAdvance h hplan (Bool.eq_false_iff.2 hlive)
    have hlt := work_lt_of_step h (step_of_next? hnext) hprogress
    exact absurd (Nat.lt_of_lt_of_le hlt hsteps) (Nat.not_lt_zero _)
  | succ steps ih =>
    rw [advance]
    cases hadvance : s.advance? plan with
    | none =>
      refine ⟨h, ?_⟩
      by_contra hlive
      obtain ⟨action, hmem, hprogress, s', hnext⟩ := canAdvance h hplan (Bool.eq_false_iff.2 hlive)
      have hnone := List.findSome?_eq_none_iff.1 hadvance action hmem
      simp [hprogress, hnext] at hnone
    | some s' =>
      obtain ⟨action, -, hnext⟩ := List.exists_of_findSome?_eq_some hadvance
      obtain ⟨hprogress, hnext⟩ := Option.ite_none_right_eq_some.1 hnext
      have hstep := step_of_next? hnext
      have hlt := work_lt_of_step h hstep hprogress
      exact ih (h.step hstep) (by omega)

end State

/-- **A demonstration that is run comes to its end.** -/
theorem isFinished_run {plan : Plan} (hplan : 0 < plan.consumers) (firstId now : Nat) :
    State.Reachable plan (run plan firstId now) ∧ (run plan firstId now).isFinished = true :=
  State.isFinished_advance (.initial firstId now) hplan (Nat.le_refl _)

/-- A demonstration is on its way to its end. -/
structure State.Advances (plan : Plan) (s : State) : Prop where
  /-- It is over, or somebody can bring it further. -/
  goesOn : s.isFinished = true ∨
    ∃ action s', s.isProgress action = true ∧ s.Step plan action s'
  /-- Whoever brings it further leaves less work. -/
  descends : ∀ action s', s.isProgress action = true → s.Step plan action s' →
    s'.work plan < s.work plan
  /-- Nobody can bring it further forever while no consumer wakes for no reason. -/
  ends : ∀ course : Course plan s, {i | course.stirs i = true}.Finite →
    {i | course.progresses i = true}.Finite

/-- **No demonstration gets stuck or goes on forever.** From every state that can be reached with
the settings of some environment, it is on its way to its end. -/
theorem State.advances {lookup : String → Option String} {settings : Settings} {s : State}
    (hsettings : Settings.ofLookup lookup = .ok settings) (h : Reachable settings.plan s) :
    Advances settings.plan s := by
  have hplan := (Settings.pos_of_ofLookup hsettings).2
  refine ⟨?_, ?_, ?_⟩
  · cases hfinished : s.isFinished with
    | true => exact .inl rfl
    | false =>
      obtain ⟨action, -, hprogress, s', hnext⟩ := canAdvance h hplan hfinished
      exact .inr ⟨action, s', hprogress, step_of_next? hnext⟩
  · exact fun action s' hprogress hstep ↦ work_lt_of_step h hstep hprogress
  · exact fun course hstirs ↦ course.finite_progresses h hstirs

/-- With the default settings, a consumer sleeps, is signalled for an item that another consumer
takes before it, and sleeps again until the next item signals it: the demonstration goes on. -/
theorem State.advances_overtaken :
    ∃ s, Reachable Settings.default.plan s ∧ s.monitor.signalled = [0] ∧
      s.monitor.queue.items = ["producer-1-item 1"] ∧ s.isFinished = false ∧
      Advances Settings.default.plan s := by
  let actions : List Action := List.replicate 8 .coordinator ++
    [.consumer 0, .producer 0 0, .consumer 1, .consumer 0, .producer 1 0]
  have hsteps : (actions.foldlM (next? Settings.default.plan)
      (initial Settings.default.plan 1 0)).map
        (fun s ↦ (s.monitor.signalled, s.monitor.queue.items, s.isFinished)) =
      some ([0], ["producer-1-item 1"], false) := by decide +kernel
  obtain ⟨s, hreach, hs⟩ := Reachable.exists_of_foldlM hsteps
  have hsettings : Settings.ofLookup (fun _ ↦ none) = .ok .default := rfl
  simp only [Prod.mk.injEq] at hs
  exact ⟨s, hreach, hs.1, hs.2.1, hs.2.2, advances hsettings hreach⟩

end Demo

end QueueJournal
