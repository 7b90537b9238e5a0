import QueueJournal.Proofs.Demo.Delivery

/-!
# The events of a demonstration in the order of their numbers

A worker numbers an event in one step and files it in another, so the journal does not keep the
events in the order of their numbers. `State.History` does: beside the steps of a demonstration it
carries the list of the events that have been numbered, the last at the end. Every state that can be
reached has such a list (`exists_history`).

What is in the list, and what is in the journal, is told by the desks of the workers. On its desk a
worker has the event that it holds, and the sketches of all events that it has numbered. A step
changes one desk at most, and in one of two ways (`State.Enters`). So the list has the same events
as the journal for each worker, and in the same order, but for the event that the worker holds
(`History.log`), and where a worker stands says what it has numbered (`History.sketches`).
-/

namespace QueueJournal

/-- What an event says, apart from the item that was taken. -/
def Event.sketch {α : Type} (event : Event α) : Gist α :=
  if event.operation = .dequeue then ⟨.dequeue, event.accepted, none⟩ else event.gist

/-- Something was taken. -/
def Gist.took {α : Type} : Gist α := ⟨.dequeue, true, none⟩

namespace Event

variable {α : Type} (e : Event α)

@[simp]
theorem operation_sketch : e.sketch.operation = e.operation := by
  rw [sketch]
  split
  · exact Eq.symm ‹_›
  · rfl

@[simp]
theorem accepted_sketch : e.sketch.accepted = e.accepted := by
  rw [sketch]
  split <;> rfl

end Event

namespace Demo

/-! ### Workers -/

/-- Those who record events. -/
inductive Worker where
  /-- The coordinator. -/
  | coordinator
  /-- A producer. -/
  | producer (p : Nat)
  /-- A consumer. -/
  | consumer (c : Nat)
deriving DecidableEq

/-- The name under which a worker records. -/
def Worker.name : Worker → String
  | coordinator => coordinatorName
  | producer p => producerName p
  | consumer c => consumerName c

theorem toList_consumerName (c : Nat) :
    (consumerName c).toList = "consumer-".toList ++ Text.decimal c :=
  String.toList_ofList

/-- The first letters of the names of two kinds of workers differ. -/
theorem Worker.take_name (w : Worker) : w.name.toList.take 3 =
    match w with
    | coordinator => ['c', 'o', 'o']
    | producer _ => ['p', 'r', 'o']
    | consumer _ => ['c', 'o', 'n'] := by
  cases w with
  | coordinator => decide
  | producer p =>
    rw [name, toList_producerName, List.take_append_of_le_length (by decide)]
    show "producer-".toList.take 3 = ['p', 'r', 'o']
    decide
  | consumer c =>
    rw [name, toList_consumerName, List.take_append_of_le_length (by decide)]
    show "consumer-".toList.take 3 = ['c', 'o', 'n']
    decide

/-- **No two workers record under the same name.** -/
theorem Worker.name_inj {w w' : Worker} (h : w.name = w'.name) : w = w' := by
  have hkind := w.take_name
  rw [h, w'.take_name] at hkind
  cases w with
  | coordinator => cases w' <;> simp_all
  | producer p =>
    cases w' with
    | producer p' =>
      have htext : (producerName p).toList = (producerName p').toList := congrArg String.toList h
      rw [toList_producerName, toList_producerName] at htext
      rw [Text.decimal_injective (List.append_cancel_left htext)]
    | _ => simp at hkind
  | consumer c =>
    cases w' with
    | consumer c' =>
      have htext : (consumerName c).toList = (consumerName c').toList := congrArg String.toList h
      rw [toList_consumerName, toList_consumerName] at htext
      rw [Text.decimal_injective (List.append_cancel_left htext)]
    | _ => simp at hkind

/-- The events that a worker can record. -/
inductive Worker.Records : Worker → Event String → Prop where
  /-- The coordinator records the closing. -/
  | close (stamp : Stamp) : Records .coordinator (.close stamp coordinatorName)
  /-- A producer records that it has put an item. -/
  | put (p n index : Nat) (stamp : Stamp) :
    Records (.producer p) (.enqueue stamp (producerName p) (itemName p n) (some index))
  /-- A consumer records that it was given an item, or none. -/
  | take (c : Nat) (item : Option String) (stamp : Stamp) :
    Records (.consumer c) (.dequeue stamp (consumerName c) item)

theorem Worker.Records.worker_eq {w : Worker} {e : Event String} (h : w.Records e) :
    e.worker = w.name := by
  cases h <;> rfl

/-- An event of one worker is not found among those of another. -/
theorem Worker.Records.filter_singleton {w : Worker} {e : Event String} (h : w.Records e)
    (w' : Worker) : [e].filter (·.worker == w'.name) = if w' = w then [e] else [] := by
  rcases eq_or_ne w' w with rfl | hne
  · simp [h.worker_eq]
  · have hname : w.name ≠ w'.name := fun hname ↦ hne (Worker.name_inj hname).symm
    simp [h.worker_eq, hname, hne]

/-! ### Desks -/

/-- What a worker has numbered. -/
structure Desk where
  /-- The event that has not been filed. -/
  draft : Option (Event String)
  /-- The sketches of all events, those of the filed ones included. -/
  sketches : List (Gist String)

namespace Desk

/-- Nothing has been numbered. -/
def clear : Desk := ⟨none, []⟩

/-- An event has been numbered. -/
def draw (d : Desk) (e : Event String) : Desk := ⟨some e, d.sketches ++ [e.sketch]⟩

/-- What was held has been filed. -/
def file (d : Desk) : Desk := ⟨none, d.sketches⟩

end Desk

/-- The desk of a producer. -/
def Producer.desk (p : Nat) (producer : Producer) : Desk :=
  let filed : Desk := ⟨none, (List.range producer.done).map fun k ↦ .put (itemName p (k + 1))⟩
  match producer.stage with
  | .filing event => filed.draw event
  | _ => filed

/-- The desk of a consumer. -/
def Consumer.desk (consumer : Consumer) : Desk :=
  let filed : Desk := ⟨none, .replicate consumer.consumed .took⟩
  match consumer.stage with
  | .filing event => filed.draw event
  | .finished => ⟨none, filed.sketches ++ [.lacking]⟩
  | _ => filed

/-- The desk of the coordinator. -/
def CoordinatorStage.desk : CoordinatorStage → Desk
  | closing event => Desk.clear.draw event
  | filing event => Desk.clear.draw event
  | awaitingConsumers _ => ⟨none, [.closed]⟩
  | finished => ⟨none, [.closed]⟩
  | _ => .clear

namespace State

variable {plan : Plan} {s s' : State} {action : Action}

/-- The desk of a worker. -/
def desk (s : State) : Worker → Desk
  | .coordinator => s.coordinator.desk
  | .producer p => s.producers[p]?.elim .clear (Producer.desk p)
  | .consumer c => s.consumers[c]?.elim .clear Consumer.desk

theorem desk_producer {p : Nat} {producer : Producer} (found : s.producers[p]? = some producer) :
    s.desk (.producer p) = producer.desk p := by
  simp [desk, found]

theorem desk_consumer {c : Nat} {consumer : Consumer} (found : s.consumers[c]? = some consumer) :
    s.desk (.consumer c) = consumer.desk := by
  simp [desk, found]

/-- A producer goes on. -/
theorem desk_moveProducer {p : Nat} {old new : Producer} {d : Desk}
    (found : s.producers[p]? = some old) (producers : s'.producers = s.producers.set p new)
    (consumers : s'.consumers = s.consumers)
    (coordinator : s'.coordinator.desk = s.coordinator.desk) (desk : new.desk p = d) :
    s'.desk = Function.update s.desk (.producer p) d := by
  subst desk
  have hlt := (List.getElem?_eq_some_iff.1 found).1
  funext w
  cases w with
  | coordinator => simpa [desk] using coordinator
  | consumer c => simp [desk, consumers]
  | producer q =>
    rcases eq_or_ne q p with rfl | hne
    · simp [desk, producers, List.getElem?_set_self hlt]
    · simp [desk, producers, hne, List.getElem?_set_ne hne.symm]

/-- A consumer goes on. -/
theorem desk_moveConsumer {c : Nat} {old new : Consumer} {d : Desk}
    (found : s.consumers[c]? = some old) (consumers : s'.consumers = s.consumers.set c new)
    (producers : s'.producers = s.producers)
    (coordinator : s'.coordinator.desk = s.coordinator.desk) (desk : new.desk = d) :
    s'.desk = Function.update s.desk (.consumer c) d := by
  subst desk
  have hlt := (List.getElem?_eq_some_iff.1 found).1
  funext w
  cases w with
  | coordinator => simpa [desk] using coordinator
  | producer p => simp [desk, producers]
  | consumer d =>
    rcases eq_or_ne d c with rfl | hne
    · simp [desk, consumers, List.getElem?_set_self hlt]
    · simp [desk, consumers, hne, List.getElem?_set_ne hne.symm]

/-- The coordinator goes on. -/
theorem desk_moveCoordinator {d : Desk} (producers : s'.producers = s.producers)
    (consumers : s'.consumers = s.consumers) (desk : s'.coordinator.desk = d) :
    s'.desk = Function.update s.desk .coordinator d := by
  subst desk
  funext w
  cases w <;> simp [desk, producers, consumers]

/-! ### Numbering and filing -/

/-- A worker is about to number an event. -/
inductive Draws (s : State) : Worker → Event String → Prop where
  /-- The coordinator is about to close the queue. -/
  | close {now : Nat} (stage : s.coordinator = .stamping) :
    Draws s .coordinator (.close ⟨s.nextId, now⟩ coordinatorName)
  /-- A producer has put an item. -/
  | put {now p index : Nat} {producer : Producer} (found : s.producers[p]? = some producer)
    (stamping : producer.stage = .stamping (some index)) :
    Draws s (.producer p)
      (.enqueue ⟨s.nextId, now⟩ (producerName p) (itemName p (producer.done + 1)) (some index))
  /-- A consumer has been given an item, or none. -/
  | take {now c : Nat} {consumer : Consumer} {item : Option String}
    (found : s.consumers[c]? = some consumer) (stamping : consumer.stage = .stamping item) :
    Draws s (.consumer c) (.dequeue ⟨s.nextId, now⟩ (consumerName c) item)

/-- What a step makes of the journal, of the desks, and of the list of numbered events. -/
inductive Enters (s : State) (drawn : List (Event String)) (s' : State) :
    List (Event String) → Prop where
  /-- No event is numbered and none is filed. -/
  | nothing (journal : s'.journal = s.journal) (nextId : s'.nextId = s.nextId)
    (desk : s'.desk = s.desk) : Enters s drawn s' drawn
  /-- A worker numbers an event. -/
  | draw {w : Worker} {e : Event String} (draws : s.Draws w e) (journal : s'.journal = s.journal)
    (nextId : s'.nextId = s.nextId + 1) (draft : (s.desk w).draft = none)
    (desk : s'.desk = Function.update s.desk w ((s.desk w).draw e)) :
    Enters s drawn s' (drawn ++ [e])
  /-- A worker files the event that it holds. -/
  | file {w : Worker} {e : Event String} (records : w.Records e)
    (journal : s'.journal = s.journal.record e) (nextId : s'.nextId = s.nextId)
    (draft : (s.desk w).draft = some e)
    (desk : s'.desk = Function.update s.desk w (s.desk w).file) : Enters s drawn s' drawn

/-- A run of a demonstration, with the events that have been numbered from `first` on. -/
inductive History (plan : Plan) (first : Nat) : State → List (Event String) → Prop where
  /-- Nobody has taken a step. -/
  | initial (now : Nat) : History plan first (.initial plan first now) []
  /-- Somebody takes a step. -/
  | step {s s' : State} {action : Action} {drawn drawn' : List (Event String)}
    (h : History plan first s drawn) (hstep : s.Step plan action s')
    (enters : s.Enters drawn s' drawn') : History plan first s' drawn'

theorem Draws.records {w : Worker} {e : Event String} (h : s.Draws w e) : w.Records e := by
  cases h with
  | close => exact .close _
  | put => exact .put _ _ _ _
  | take => exact .take _ _ _

theorem Draws.id_eq {w : Worker} {e : Event String} (h : s.Draws w e) : e.id = s.nextId := by
  cases h <;> rfl

namespace Enters

variable {drawn : List (Event String)}

/-- The coordinator goes on, and neither numbers an event nor files one. -/
theorem moveCoordinator (producers : s'.producers = s.producers)
    (consumers : s'.consumers = s.consumers) (journal : s'.journal = s.journal)
    (nextId : s'.nextId = s.nextId) (desk : s'.coordinator.desk = s.coordinator.desk) :
    s.Enters drawn s' drawn := by
  refine .nothing journal nextId ?_
  rw [desk_moveCoordinator producers consumers desk]
  exact Function.update_eq_self _ _

/-- A producer goes on, and neither numbers an event nor files one. -/
theorem moveProducer {p : Nat} {old new : Producer} (found : s.producers[p]? = some old)
    (producers : s'.producers = s.producers.set p new) (consumers : s'.consumers = s.consumers)
    (coordinator : s'.coordinator.desk = s.coordinator.desk) (journal : s'.journal = s.journal)
    (nextId : s'.nextId = s.nextId) (desk : new.desk p = old.desk p) :
    s.Enters drawn s' drawn := by
  refine .nothing journal nextId ?_
  rw [← desk_producer found] at desk
  rw [desk_moveProducer found producers consumers coordinator desk]
  exact Function.update_eq_self _ _

/-- A consumer goes on, and neither numbers an event nor files one. -/
theorem moveConsumer {c : Nat} {old new : Consumer} (found : s.consumers[c]? = some old)
    (consumers : s'.consumers = s.consumers.set c new) (producers : s'.producers = s.producers)
    (coordinator : s'.coordinator.desk = s.coordinator.desk) (journal : s'.journal = s.journal)
    (nextId : s'.nextId = s.nextId) (desk : new.desk = old.desk) : s.Enters drawn s' drawn := by
  refine .nothing journal nextId ?_
  rw [← desk_consumer found] at desk
  rw [desk_moveConsumer found consumers producers coordinator desk]
  exact Function.update_eq_self _ _

end Enters

/-- **A step numbers one event, or files one, or does neither.** -/
theorem Orderly.exists_enters (h : s.Orderly plan) (hstep : s.Step plan action s')
    (drawn : List (Event String)) : ∃ drawn', s.Enters drawn s' drawn' := by
  cases hstep.move with
  | hireConsumer stage found =>
    have hunborn := h.consumer_unborn stage found
    refine ⟨drawn, .moveConsumer found rfl rfl ?_ rfl rfl ?_⟩
    · rw [stage]
      rfl
    · simp [Consumer.desk, hunborn]
  | hireProducer stage found =>
    have hunborn := h.producer_unborn stage found
    refine ⟨drawn, .moveProducer found rfl rfl ?_ rfl rfl ?_⟩
    · rw [stage]
      rfl
    · simp [Producer.desk, hunborn]
  | consumersHired stage => exact ⟨drawn, .moveCoordinator rfl rfl rfl rfl (by rw [stage]; rfl)⟩
  | producersHired stage => exact ⟨drawn, .moveCoordinator rfl rfl rfl rfl (by rw [stage]; rfl)⟩
  | countProducer stage => exact ⟨drawn, .moveCoordinator rfl rfl rfl rfl (by rw [stage]; rfl)⟩
  | producersEnded stage => exact ⟨drawn, .moveCoordinator rfl rfl rfl rfl (by rw [stage]; rfl)⟩
  | pollInVain => exact ⟨drawn, .moveCoordinator rfl rfl rfl rfl rfl⟩
  | pollEmpty stage => exact ⟨drawn, .moveCoordinator rfl rfl rfl rfl (by rw [stage]; rfl)⟩
  | close stage => exact ⟨drawn, .moveCoordinator rfl rfl rfl rfl (by rw [stage]; rfl)⟩
  | countConsumer stage => exact ⟨drawn, .moveCoordinator rfl rfl rfl rfl (by rw [stage]; rfl)⟩
  | consumersEnded stage => exact ⟨drawn, .moveCoordinator rfl rfl rfl rfl (by rw [stage]; rfl)⟩
  | @stampClosing now stage =>
    have hdesk : s.desk .coordinator = .clear := by rw [desk, stage]; rfl
    refine ⟨_, .draw (@Draws.close s now stage) rfl rfl (by rw [hdesk]; rfl) ?_⟩
    exact desk_moveCoordinator rfl rfl (by rw [hdesk]; rfl)
  | @fileClosing now event stage =>
    obtain ⟨stamp, rfl⟩ : ∃ stamp, event = .close stamp coordinatorName := by
      simpa [stage] using h.coordinator
    have hdesk : s.desk .coordinator = Desk.clear.draw (.close stamp coordinatorName) := by
      rw [desk, stage]
      rfl
    refine ⟨drawn, .file (.close stamp) rfl rfl (by rw [hdesk]; rfl) ?_⟩
    exact desk_moveCoordinator rfl rfl (by rw [hdesk]; rfl)
  | put found ready =>
    exact ⟨drawn, .moveProducer found rfl rfl rfl rfl rfl (by simp [Producer.desk, ready])⟩
  | putInVain found ready =>
    exact ⟨drawn, .moveProducer found rfl rfl rfl rfl rfl (by simp [Producer.desk, ready])⟩
  | endProducer found ready =>
    exact ⟨drawn, .moveProducer found rfl rfl rfl rfl rfl (by simp [Producer.desk, ready])⟩
  | @stampPut now p pick producer index found stamping =>
    have hdesk := desk_producer found
    have hsound := (h.producer p producer found).sound
    cases hsound with
    | stamping =>
      cases stamping
      refine ⟨_, .draw (@Draws.put s now _ _ _ found rfl) rfl rfl (by rw [hdesk]; rfl) ?_⟩
      exact desk_moveProducer found rfl rfl rfl (by rw [hdesk]; rfl)
    | _ => cases stamping
  | @filePut now p pick producer event found filing =>
    have hdesk := desk_producer found
    have hsound := (h.producer p producer found).sound
    cases hsound with
    | filing =>
      cases filing
      refine ⟨drawn, .file (.put ..) rfl rfl (by rw [hdesk]; rfl) ?_⟩
      refine desk_moveProducer found rfl rfl rfl ?_
      rw [hdesk]
      simp [Producer.desk, Desk.file, Desk.draw, List.range_succ, Event.sketch, Event.enqueue,
        Event.gist, Gist.put]
    | _ => cases filing
  | sleep found asking =>
    exact ⟨drawn, .moveConsumer found rfl rfl rfl rfl rfl (by simp [Consumer.desk, asking])⟩
  | take found asking =>
    exact ⟨drawn, .moveConsumer found rfl rfl rfl rfl rfl (by simp [Consumer.desk, asking])⟩
  | sleepAgain found waiting =>
    exact ⟨drawn, .moveConsumer found rfl rfl rfl rfl rfl (by simp [Consumer.desk, waiting])⟩
  | takeLate found waiting =>
    exact ⟨drawn, .moveConsumer found rfl rfl rfl rfl rfl (by simp [Consumer.desk, waiting])⟩
  | @stampTake now c consumer item found stamping =>
    have hdesk := desk_consumer found
    simp only [Consumer.desk, stamping] at hdesk
    refine ⟨_, .draw (@Draws.take s now _ _ _ found stamping) rfl rfl (by rw [hdesk]) ?_⟩
    exact desk_moveConsumer found rfl rfl rfl (by rw [hdesk]; rfl)
  | @fileTake now c consumer event found filing accepted =>
    have hdesk := desk_consumer found
    have hsound := (h.consumer c consumer found).sound
    cases hsound with
    | filing =>
      cases filing
      refine ⟨drawn, .file (.take ..) rfl rfl (by rw [hdesk]; rfl) ?_⟩
      refine desk_moveConsumer found rfl rfl rfl ?_
      rw [hdesk]
      simp only [Consumer.desk, Desk.file, Desk.draw, Event.sketch, accepted,
        List.replicate_succ', Gist.took]
      rfl
    | _ => cases filing
  | @endConsumer now c consumer event found filing refused =>
    have hdesk := desk_consumer found
    have hsound := (h.consumer c consumer found).sound
    cases hsound with
    | filing =>
      cases filing
      refine ⟨drawn, .file (.take ..) rfl rfl (by rw [hdesk]; rfl) ?_⟩
      refine desk_moveConsumer found rfl rfl rfl ?_
      rw [hdesk]
      simp only [Consumer.desk, Desk.file, Desk.draw, Event.sketch, refused, Gist.lacking]
      rfl
    | _ => cases filing
  | stir => exact ⟨drawn, .moveCoordinator rfl rfl rfl rfl rfl⟩

/-- **Every state that can be reached has a history.** -/
theorem exists_history (h : Reachable plan s) : ∃ first drawn, History plan first s drawn := by
  induction h with
  | initial firstId now => exact ⟨firstId, [], .initial now⟩
  | step hreach hstep ih =>
    obtain ⟨first, drawn, hhistory⟩ := ih
    obtain ⟨drawn', henters⟩ := (orderly_of_reachable hreach).exists_enters hstep drawn
    exact ⟨first, drawn', hhistory.step hstep henters⟩

/-! ### What a history says -/

theorem desk_initial (firstId now : Nat) (w : Worker) :
    (State.initial plan firstId now).desk w = .clear := by
  cases w with
  | coordinator => rfl
  | producer p =>
    cases hp : (State.initial plan firstId now).producers[p]? with
    | none => simp [desk, hp]
    | some producer =>
      obtain rfl := List.eq_of_mem_replicate (List.mem_of_getElem? hp)
      exact desk_producer hp
  | consumer c =>
    cases hc : (State.initial plan firstId now).consumers[c]? with
    | none => simp [desk, hc]
    | some consumer =>
      obtain rfl := List.eq_of_mem_replicate (List.mem_of_getElem? hc)
      exact desk_consumer hc

namespace History

variable {first : Nat} {drawn : List (Event String)} {w : Worker} {e : Event String}

theorem reachable (h : History plan first s drawn) : Reachable plan s := by
  induction h with
  | initial now => exact .initial first now
  | step _ hstep _ ih => exact ih.step hstep

/-- The next event will have the number behind those that have been taken. -/
theorem nextId_eq (h : History plan first s drawn) : s.nextId = first + drawn.length := by
  induction h with
  | initial now => rfl
  | step _ _ enters ih =>
    cases enters with
    | nothing _ nextId _ => rw [nextId, ih]
    | draw _ _ nextId _ _ =>
      rw [nextId, ih, List.length_append, List.length_singleton, Nat.add_assoc]
    | file _ _ nextId _ _ => rw [nextId, ih]

/-- **Events are numbered one after the other.** -/
theorem ids_eq (h : History plan first s drawn) :
    drawn.map Event.id = List.range' first drawn.length := by
  induction h with
  | initial now => rfl
  | step before _ enters ih =>
    cases enters with
    | nothing => exact ih
    | draw draws =>
      rw [List.map_append, ih, List.length_append, List.length_singleton, List.range'_concat,
        List.map_singleton, draws.id_eq, before.nextId_eq, Nat.one_mul]
    | file => exact ih

theorem pairwise_id (h : History plan first s drawn) : drawn.Pairwise fun e f ↦ e.id < f.id := by
  have hids : (drawn.map Event.id).Pairwise (· < ·) := h.ids_eq ▸ List.pairwise_lt_range'
  exact List.pairwise_map.1 hids

/-- The number of an event is below the next. -/
theorem id_lt_nextId (h : History plan first s drawn) (he : e ∈ drawn) : e.id < s.nextId := by
  have hmem : e.id ∈ List.range' first drawn.length := h.ids_eq ▸ List.mem_map_of_mem he
  rw [h.nextId_eq]
  exact (List.mem_range'_1.1 hmem).2

/-- What holds between an event that is numbered and all events before it holds throughout. -/
theorem pairwise {R : Event String → Event String → Prop} (h : History plan first s drawn)
    (hdraw : ∀ {s : State} {drawn : List (Event String)} {w : Worker} {e : Event String},
      History plan first s drawn → s.Draws w e → ∀ d ∈ drawn, R d e) : drawn.Pairwise R := by
  induction h with
  | initial now => exact .nil
  | step before _ enters ih =>
    cases enters with
    | nothing => exact ih
    | draw draws =>
      refine List.pairwise_append.2 ⟨ih, List.pairwise_singleton _ _, fun d hd e he ↦ ?_⟩
      rw [List.mem_singleton.1 he]
      exact hdraw before draws d hd
    | file => exact ih

/-- Of two events, the one that cannot come after the other has the smaller number. -/
theorem id_lt_of_pairwise {f : Event String} {R : Event String → Event String → Prop}
    (h : History plan first s drawn) (hpair : drawn.Pairwise R) (he : e ∈ drawn) (hf : f ∈ drawn)
    (hne : e ≠ f) (hnot : ¬ R f e) : e.id < f.id := by
  obtain ⟨i, hi, rfl⟩ := List.getElem_of_mem he
  obtain ⟨j, hj, rfl⟩ := List.getElem_of_mem hf
  rcases lt_trichotomy i j with hlt | rfl | hgt
  · exact List.pairwise_iff_getElem.1 h.pairwise_id i j hi hj hlt
  · exact absurd rfl hne
  · exact absurd (List.pairwise_iff_getElem.1 hpair j i hj hi hgt) hnot

/-- Events are recorded by workers. -/
theorem exists_records (h : History plan first s drawn) (he : e ∈ drawn) :
    ∃ w : Worker, w.Records e := by
  induction h with
  | initial now => cases he
  | step _ _ enters ih =>
    cases enters with
    | nothing => exact ih he
    | draw draws =>
      rcases List.mem_append.1 he with hbefore | hlast
      · exact ih hbefore
      · exact ⟨_, List.mem_singleton.1 hlast ▸ draws.records⟩
    | file => exact ih he

/-- **Where a worker stands says what it has numbered.** -/
theorem sketches (h : History plan first s drawn) (w : Worker) :
    (drawn.filter (·.worker == w.name)).map Event.sketch = (s.desk w).sketches := by
  induction h with
  | initial now => rw [desk_initial]; rfl
  | step _ _ enters ih =>
    cases enters with
    | nothing _ _ desk => rw [desk, ih]
    | @draw w' e draws _ _ _ desk =>
      rw [List.filter_append, List.map_append, ih, draws.records.filter_singleton, desk]
      rcases eq_or_ne w w' with rfl | hne
      · simp [Desk.draw]
      · simp [hne]
    | @file w' e _ _ _ _ desk =>
      rw [ih, desk]
      rcases eq_or_ne w w' with rfl | hne
      · simp [Desk.file]
      · simp [hne]

/-- **A worker files its events in the order of their numbers**, and each before it numbers the
next. -/
theorem log (h : History plan first s drawn) (w : Worker) :
    drawn.filter (·.worker == w.name) = s.journal.entriesOf w.name ++ (s.desk w).draft.toList := by
  induction h with
  | initial now => rw [desk_initial]; rfl
  | step _ _ enters ih =>
    cases enters with
    | nothing journal _ desk => rw [ih, journal, desk]
    | @draw w' e draws journal _ draft desk =>
      rw [List.filter_append, ih, draws.records.filter_singleton, journal, desk]
      rcases eq_or_ne w w' with rfl | hne
      · simp [draft, Desk.draw]
      · simp [hne]
    | @file w' e records journal _ draft desk =>
      have hentries : ∀ (j : Journal String) (name : String), (j.record e).entriesOf name =
          j.entriesOf name ++ [e].filter (·.worker == name) := fun j name ↦ by
        simp [Journal.entriesOf]
      rw [ih, journal, hentries, records.filter_singleton, desk]
      rcases eq_or_ne w w' with rfl | hne
      · simp [draft, Desk.file]
      · simp [hne]

/-- What a worker holds has been numbered. -/
theorem mem_of_draft (h : History plan first s drawn) (draft : (s.desk w).draft = some e) :
    e ∈ drawn := by
  have hmem : e ∈ drawn.filter (·.worker == w.name) := by
    rw [h.log w, draft]
    exact List.mem_append_right _ (List.mem_singleton_self e)
  exact (List.mem_filter.1 hmem).1

/-- What is in the journal has been numbered. -/
theorem mem_of_mem_journal (h : History plan first s drawn) (he : e ∈ s.journal.entries) :
    e ∈ drawn := by
  induction h with
  | initial now => cases he
  | step before _ enters ih =>
    cases enters with
    | nothing journal => exact ih (journal ▸ he)
    | draw _ journal => exact List.mem_append_left _ (ih (journal ▸ he))
    | @file w e' records journal _ draft _ =>
      rw [journal, Journal.entries_record] at he
      rcases List.mem_append.1 he with hbefore | hlast
      · exact ih hbefore
      · obtain rfl := List.mem_singleton.1 hlast
        exact before.mem_of_draft draft

/-- When the demonstration is over, no worker holds an event. -/
theorem draft_of_isFinished (h : History plan first s drawn) (hfinished : s.isFinished = true)
    (w : Worker) : (s.desk w).draft = none := by
  cases w with
  | coordinator => rw [desk, coordinator_of_isFinished hfinished]; rfl
  | producer p =>
    cases found : s.producers[p]? with
    | none => simp [desk, found, Desk.clear]
    | some producer =>
      rw [desk_producer found, producer_of_isFinished h.reachable hfinished found]
      rfl
  | consumer c =>
    cases found : s.consumers[c]? with
    | none => simp [desk, found, Desk.clear]
    | some consumer =>
      rw [desk_consumer found, Consumer.desk, consumer_of_isFinished h.reachable hfinished found]

/-- When the demonstration is over, the journal has the events under each name in the order of their
numbers. -/
theorem entriesOf_of_isFinished (h : History plan first s drawn) (hfinished : s.isFinished = true)
    (name : String) : s.journal.entriesOf name = drawn.filter (·.worker == name) := by
  by_cases hname : ∃ w : Worker, w.name = name
  · obtain ⟨w, rfl⟩ := hname
    rw [h.log, h.draft_of_isFinished hfinished, Option.toList_none, List.append_nil]
  · have hnone : ∀ e ∈ drawn, ¬ (e.worker == name) = true := fun e he heq ↦ by
      obtain ⟨w, records⟩ := h.exists_records he
      exact hname ⟨w, records.worker_eq.symm.trans (beq_iff_eq.1 heq)⟩
    rw [Journal.entriesOf, List.filter_eq_nil_iff.2 hnone,
      List.filter_eq_nil_iff.2 fun e he ↦ hnone e (h.mem_of_mem_journal he)]

/-- **When the demonstration is over, the journal has all events that were numbered**, each once. -/
theorem perm_of_isFinished (h : History plan first s drawn) (hfinished : s.isFinished = true) :
    s.journal.entries.Perm drawn := by
  classical
  refine List.perm_iff_count.2 fun e ↦ ?_
  by_cases he : ∃ w : Worker, w.Records e
  · obtain ⟨w, hrecords⟩ := he
    have hcount : ∀ l : List (Event String),
        l.count e = (l.filter (·.worker == w.name)).count e := fun l ↦
      (List.count_filter (p := fun f : Event String ↦ f.worker == w.name)
        (beq_iff_eq.2 hrecords.worker_eq)).symm
    rw [hcount, hcount drawn, ← h.entriesOf_of_isFinished hfinished, Journal.entriesOf]
  · rw [List.count_eq_zero.2 fun hmem ↦ he (h.exists_records (h.mem_of_mem_journal hmem)),
      List.count_eq_zero.2 fun hmem ↦ he (h.exists_records hmem)]

end History

end State

end Demo

end QueueJournal
