import QueueJournal.Proofs.Journal.Replay
import QueueJournal.Session.Run

/-!
# A session keeps a diary

A session of one thread, in which every call is recorded, is a diary: its queue and its journal are
those of `Diary.run` (`Session.keeps_run`). So its journal replays its queue. What the session
reports of a call is the notice of the call (`Session.Keeps.step`).

While no thread waits, `Session.Keeps` is kept by each of the operations of a session on its queue
and its journal. A command is put together from these.
-/

namespace QueueJournal

variable {α : Type}

/-- What is recorded under the name and with the stamp of a call. -/
def Act.recorder (a : Act α) : Recorder :=
  ⟨some a.worker, some a.stamp.id, some a.stamp.atMicros⟩

/-- The command that carries out a call and records it. Calls that are not recorded have none. -/
def Act.command? (a : Act α) : Option (Command α) :=
  match a.call with
  | .enqueue item => some (.enqueue item a.recorder)
  | .dequeue => some (.dequeue a.recorder)
  | .tryDequeue => some (.tryDequeue a.recorder)
  | .removeAt index => some (.removeAt index a.recorder)
  | .tryRemoveAt index => some (.tryRemoveAt index a.recorder)
  | .clear => some (.clear a.recorder)
  | .close => some (.close a.recorder)
  | _ => none

namespace Monitor

variable {m : Monitor α}

/-- Where no thread is asleep, putting an item signals none. -/
theorem enqueue_of_parked [Item α] (h : m.parked = []) (item : α) (pick : Nat) :
    m.enqueue item pick = m.onQueue fun q ↦ q.enqueue item := by
  rw [enqueue_eq, onQueue_eq]
  rcases m.queue.enqueue item with ⟨_ | index, queue⟩ <;> simp [notifyOne, h]

/-- Where no thread is asleep, closing signals none. -/
theorem close_of_parked (h : m.parked = []) : m.close = m.onQueue Queue.close := by
  rw [close_eq, onQueue_eq]
  rcases m.queue.close with ⟨_ | discarded, queue⟩ <;> simp [notifyAll, h]

end Monitor

namespace Session

/-- No thread of a session waits, and its queue and its journal are those of a diary. -/
structure Keeps (s : Session α) (d : Diary α) : Prop where
  /-- No thread is asleep. -/
  parked : s.monitor.parked = []
  /-- No thread has been woken. -/
  signalled : s.monitor.signalled = []
  /-- The queue is that of the diary. -/
  queue : s.queue = d.queue
  /-- The journal is that of the diary. -/
  journal : s.journal = d.journal

variable {s : Session α} {d : Diary α} {a : Act α}

theorem keeps_fresh : (fresh : Session α).Keeps .new :=
  ⟨rfl, rfl, rfl, rfl⟩

/-- Where no thread has been woken, none runs. -/
theorem deliver_of_signalled (h : s.monitor.signalled = []) : s.deliver = ([], s) := by
  rw [Session.deliver, Monitor.deliver, h]
  rfl

namespace Keeps

theorem notify (h : s.Keeps d) (notice : Notice) : (s.notify notice).Keeps d :=
  ⟨h.parked, h.signalled, h.queue, h.journal⟩

/-- An account is recorded as the event of the call. -/
theorem record (h : s.Keeps d) (account : Account α) :
    (s.record a.recorder account).Keeps
      { d with journal := d.journal.record (account.event a.stamp a.worker) } :=
  ⟨h.parked, h.signalled, h.queue, by simp [Session.record, build, Act.recorder, stamp, h.journal]⟩

theorem onQueue {β : Type} (h : s.Keeps d) (f : Queue α → β × Queue α) :
    ∃ s', s.onQueue f = ((f d.queue).1, s') ∧ s'.Keeps { d with queue := (f d.queue).2 } ∧
      s'.notices = s.notices := by
  rw [← h.queue, Session.onQueue, Monitor.onQueue_eq]
  exact ⟨_, rfl, ⟨h.parked, h.signalled, rfl, h.journal⟩, rfl⟩

/-- A removal that gets through takes out the item at the index. -/
theorem removeAt (h : s.Keeps d) {index : Nat} (hlt : index < d.queue.length) :
    ∃ s', s.removeAt index = (.ok (d.queue.length - 1), s') ∧
      s'.Keeps { d with queue := { d.queue with items := d.queue.items.eraseIdx index } } ∧
      s'.notices = s.notices := by
  rw [← h.queue] at hlt ⊢
  rw [Session.removeAt, Monitor.removeAt_of_lt hlt]
  exact ⟨_, rfl, ⟨h.parked, h.signalled, rfl, h.journal⟩, rfl⟩

theorem put [Item α] (h : s.Keeps d) (item : α) :
    ∃ s', s.put item = ((d.queue.enqueue item).1, s') ∧
      s'.Keeps { d with queue := (d.queue.enqueue item).2 } ∧
      s'.notices = s.notices ++
        (notice? (.enqueue item) (.index (d.queue.enqueue item).1)).toList := by
  rw [← h.queue, Session.put, Monitor.enqueue_of_parked h.parked item 0, Monitor.onQueue_eq]
  split
  next monitor heq =>
    obtain ⟨hindex, rfl⟩ := Prod.mk.inj heq
    replace hindex : (s.queue.enqueue item).1 = none := hindex
    exact ⟨_, Prod.ext hindex.symm rfl, ⟨h.parked, h.signalled, rfl, h.journal⟩, by
      rw [hindex]
      rfl⟩
  next index monitor heq =>
    obtain ⟨hindex, rfl⟩ := Prod.mk.inj heq
    replace hindex : (s.queue.enqueue item).1 = some index := hindex
    exact ⟨_, Prod.ext hindex.symm rfl, ⟨h.parked, h.signalled, rfl, h.journal⟩, by
      rw [hindex]
      exact (List.append_nil _).symm⟩

theorem shut (h : s.Keeps d) : s.shut.Keeps { d with queue := d.queue.close.2 } ∧
    s.shut.notices = s.notices ++ (notice? (.close : Call α) (.closed d.queue.close.1)).toList := by
  rw [← h.queue, Session.shut, Monitor.close_of_parked h.parked, Monitor.onQueue_eq]
  split
  next monitor heq =>
    obtain ⟨hdiscarded, rfl⟩ := Prod.mk.inj heq
    replace hdiscarded : s.queue.close.1 = none := hdiscarded
    exact ⟨⟨h.parked, h.signalled, rfl, h.journal⟩, by
      rw [hdiscarded]
      exact (List.append_nil _).symm⟩
  next discarded monitor heq =>
    obtain ⟨hdiscarded, rfl⟩ := Prod.mk.inj heq
    replace hdiscarded : s.queue.close.1 = some discarded := hdiscarded
    exact ⟨⟨h.parked, h.signalled, rfl, h.journal⟩, by rw [hdiscarded]; rfl⟩

theorem startDequeue (h : s.Keeps d) (hready : d.queue.mustWait = false) :
    ∃ s', s.startDequeue = (.returns d.queue.tryDequeue.1, s') ∧
      s'.Keeps { d with queue := d.queue.tryDequeue.2 } ∧ s'.notices = s.notices := by
  rw [← h.queue] at hready ⊢
  rw [Session.startDequeue, Monitor.dequeue_eq, if_neg (Bool.not_eq_true _ ▸ hready)]
  exact ⟨_, rfl, ⟨h.parked, h.signalled, rfl, h.journal⟩, rfl⟩

variable [Item α] [Visible α] {command : Command α}

/-- **A call that gets through is carried out and recorded as in the diary**, and reported. -/
theorem perform (h : s.Keeps d) (hadmits : d.queue.admits a.call = true)
    (hcommand : a.command? = some command) : (s.perform command).2.Keeps (d.act a) ∧
      (s.perform command).2.notices =
        s.notices ++ (notice? a.call (d.queue.perform a.call).1).toList := by
  obtain ⟨call, worker, stamp⟩ := a
  cases call with
  | enqueue item =>
    obtain rfl := Option.some_inj.1 hcommand
    obtain ⟨s', hput, hkeeps, hnotices⟩ := h.put item
    rw [Session.perform, hput]
    exact ⟨hkeeps.record (.enqueue item (d.queue.enqueue item).1), hnotices⟩
  | dequeue =>
    obtain rfl := Option.some_inj.1 hcommand
    obtain ⟨s', hstart, hkeeps, hnotices⟩ :=
      h.startDequeue (by simpa [Queue.admits] using hadmits)
    rw [Session.perform, hstart]
    exact ⟨hkeeps.record (.dequeue d.queue.tryDequeue.1),
      hnotices.trans (List.append_nil _).symm⟩
  | tryDequeue =>
    obtain rfl := Option.some_inj.1 hcommand
    obtain ⟨s', htake, hkeeps, hnotices⟩ := h.onQueue Queue.tryDequeue
    rw [Session.perform, htake]
    exact ⟨hkeeps.record (.dequeue d.queue.tryDequeue.1),
      hnotices.trans (List.append_nil _).symm⟩
  | removeAt index =>
    obtain rfl := Option.some_inj.1 hcommand
    have hlt : index < d.queue.length := by simpa [Queue.admits, Queue.length] using hadmits
    obtain ⟨s', hremove, hkeeps, hnotices⟩ := h.removeAt hlt
    rw [Session.perform, hremove, Diary.act, Queue.perform, Guard.removeAt_of_lt hlt]
    exact ⟨hkeeps.record (.removeAt index (some (d.queue.length - 1))),
      hnotices.trans (List.append_nil _).symm⟩
  | tryRemoveAt index =>
    obtain rfl := Option.some_inj.1 hcommand
    obtain ⟨s', hremove, hkeeps, hnotices⟩ := h.onQueue fun q ↦ q.tryRemoveAt index
    rw [Session.perform, hremove]
    exact ⟨hkeeps.record (.removeAt index (d.queue.tryRemoveAt index).1),
      hnotices.trans (List.append_nil _).symm⟩
  | clear =>
    obtain rfl := Option.some_inj.1 hcommand
    obtain ⟨s', hclear, hkeeps, hnotices⟩ := h.onQueue Queue.clear
    rw [Session.perform, hclear]
    exact ⟨(hkeeps.notify (.queueCleared d.queue.clear.1)).record (.clear d.queue.clear.1),
      by rw [← hnotices]; rfl⟩
  | close =>
    obtain rfl := Option.some_inj.1 hcommand
    obtain ⟨hkeeps, hnotices⟩ := h.shut
    exact ⟨hkeeps.record .close, hnotices⟩
  | _ => simp [Act.command?] at hcommand

/-- No thread runs between two calls, and what is reported since the last is told. -/
theorem step (h : s.Keeps d) (hadmits : d.queue.admits a.call = true)
    (hcommand : a.command? = some command) : (s.step command).2.Keeps (d.act a) ∧
      (s.step command).1.notices = (notice? a.call (d.queue.perform a.call).1).toList := by
  have hbegin : { s with notices := [], delivered := [] : Session α }.Keeps d :=
    ⟨h.parked, h.signalled, h.queue, h.journal⟩
  obtain ⟨hkeeps, hnotices⟩ := hbegin.perform hadmits hcommand
  rw [Session.step]
  simp only [deliver_of_signalled hkeeps.signalled]
  exact ⟨hkeeps, hnotices⟩

end Keeps

theorem run_append [Item α] [Visible α] (s : Session α) (first second : List (Command α)) :
    (s.run (first ++ second)).2 = ((s.run first).2.run second).2 := by
  induction first generalizing s with
  | nil => rfl
  | cons command first ih => exact ih (s.step command).2

/-- A call that gets through is carried out by a command. -/
theorem exists_command {q : Queue α} (h : q.admits a.call = true) :
    ∃ command, a.command? = some command := by
  rw [Act.command?]
  split
  case h_8 => simp_all [Queue.admits]
  all_goals exact ⟨_, rfl⟩

variable [Item α] [Visible α] {acts : List (Act α)}

/-- **A session in which every call is recorded is a diary.** -/
theorem keeps_run (h : Diary.Admitted acts) :
    (fresh.run (acts.filterMap Act.command?)).2.Keeps (.run acts) := by
  induction h with
  | nil => exact keeps_fresh
  | @snoc acts a before admits ih =>
    obtain ⟨command, hcommand⟩ := exists_command admits
    have hcommands : (acts ++ [a]).filterMap Act.command? =
        acts.filterMap Act.command? ++ [command] := by
      rw [List.filterMap_append, List.filterMap_cons_some hcommand, List.filterMap_nil]
    rw [hcommands, run_append, Diary.run_concat]
    exact (ih.step admits hcommand).1

end Session

end QueueJournal
