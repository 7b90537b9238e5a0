import QueueJournal.Proofs.Crowd.Basic
import QueueJournal.Proofs.Monitor.Poison
import QueueJournal.Proofs.Queue.Searching

/-!
# A search leaves no trace

A thread searches the queue with a test that has a memory of its own, and that may break off. The
test is asked about the items from head to tail, each once at most, up to the one that decides.
However the search ends, the queue is as it was. If the test breaks off, the lock is poisoned; a
thread that makes calls afterwards does not notice (`search_leaves_no_trace`).
-/

namespace QueueJournal.Crowd

variable {α σ : Type} {c c' : Crowd α} {thread number : Nat} {deed : Deed α}

variable [Item α]

/-- What a search comes to whose test has a memory. -/
structure Searched (c : Crowd α) (ask : Examiner σ α) (s : σ) (finding : Finding) (c' : Crowd α) :
    Prop where
  /-- The search ends as the first verdict that is not "no" says. -/
  reports : ∀ f, finding = f ↔ f.Reports (ask.verdicts s c.queue.items)
  /-- The test is asked about as many items as the search tells, from the head on and in order, and
  each question changes its memory once. -/
  asked : ask.scan s 0 c.queue.items =
    (finding, c.queue.items.take (finding.calls c.queue.length),
      ask.memory s (c.queue.items.take (finding.calls c.queue.length)))
  /-- The items are the same, the queue is as open, and its buffer has as many places. -/
  queue : c'.queue = c.queue
  /-- A test that breaks off poisons the lock. -/
  poisoned : c'.monitor.poisoned = true ↔
    c.monitor.poisoned = true ∨ ∃ index, finding = .interrupted index
  /-- A thread that makes calls afterwards is answered as if there had been no search, and leaves
  the queue as it would have left it. If it had to wait for an item, it has to wait now. -/
  later : ∀ thread calls, (c'.monitor.serve thread calls).map (Prod.map id fun m ↦ m.queue) =
    (c.monitor.serve thread calls).map (Prod.map id fun m ↦ m.queue)

/-- A search ends as the queue says, and can only poison the lock. -/
theorem Step.ends_search {probe : Probe α} (hstep : Step c c')
    (hdeeds : c'.deeds = c.deeds ++ [deed]) (hcall : deed.call = .search probe) :
    deed.result = .finding (c.queue.search probe) ∧
      c'.monitor = c.monitor.poison deed.result.interrupted := by
  obtain ⟨pick, hends, -, -⟩ := hstep.ends_at_once hdeeds (by simp [hcall])
  rw [hcall] at hends
  have hperform := hends.effect.perform_eq
  rw [Queue.perform, Prod.mk.injEq] at hperform
  obtain ⟨hresult, hqueue⟩ := hperform
  exact ⟨hresult.symm, hends.eq_poison rfl hqueue.symm⟩

theorem searched (ask : Examiner σ α) (s : σ)
    (hmonitor : c'.monitor = c.monitor.poison
      (Result.finding (α := α) (c.queue.search (ask.probe s))).interrupted) :
    c.Searched ask s (c.queue.search (ask.probe s)) c' where
  reports := ask.run_eq_iff s c.queue.items
  asked := ask.scan_eq s c.queue.items
  queue := by rw [queue, hmonitor, Monitor.poison_queue]
  poisoned := by
    rw [hmonitor, Monitor.poison, Bool.or_eq_true]
    cases c.queue.search (ask.probe s) <;> simp [Result.interrupted, Finding.isInterrupted]
  later thread calls := by
    rw [hmonitor, Monitor.serve_poison, Option.map_map]
    rfl

/-- **A search leaves no trace**, whatever memory its test has and whether it breaks off or not. A
thread that begins a search can end it at once. However it ends, it has asked about the items from
head to tail, each once at most, up to the one that decides; the queue is as it was; and a thread
that makes calls afterwards is answered as if there had been no search. -/
theorem search_leaves_no_trace (c : Crowd α) (ask : Examiner σ α) (s : σ) :
    (∀ thread number, c.stage thread = .called number (.search (ask.probe s)) →
      ∃ c' finding, Step c c' ∧ c'.stage thread =
        .leaving ⟨number, thread, .search (ask.probe s), .finding finding⟩) ∧
      ∀ c' deed, Step c c' → c'.deeds = c.deeds ++ [deed] →
        deed.call = .search (ask.probe s) →
          ∃ finding, deed.result = .finding finding ∧ c.Searched ask s finding c' := by
  refine ⟨fun thread number hcalled ↦ ?_, fun c' deed hstep hdeeds hcall ↦ ?_⟩
  · exact ⟨_, (c.monitor.search (ask.probe s)).1, .enter thread 0 hcalled,
      Function.update_self ..⟩
  · obtain ⟨hresult, hmonitor⟩ := hstep.ends_search hdeeds hcall
    rw [hresult] at hmonitor
    exact ⟨_, hresult, searched ask s hmonitor⟩

/-- A test that counts its questions breaks off at the second of three items. A thread that then
takes an item, searches with a test that breaks off at once, puts an item, and takes and removes
the others is answered as if there had been no search. -/
theorem search_leaves_no_trace_interrupted :
    ∃ (c c' : Crowd String) (deed : Deed String) (ask : Examiner Nat String),
      Reachable c ∧ c.queue.items = ["a", "b", "c"] ∧
        c.stage 3 = .called 3 (.search (ask.probe 0)) ∧
        (∃ c' finding, Step c c' ∧
          c'.stage 3 = .leaving ⟨3, 3, .search (ask.probe 0), .finding finding⟩) ∧
      Step c c' ∧ c'.deeds = c.deeds ++ [deed] ∧ deed.call = .search (ask.probe 0) ∧
        deed.result = .finding (.interrupted 1) ∧ c'.monitor.poisoned = true ∧
        (∃ finding, deed.result = .finding finding ∧ c.Searched ask 0 finding c') ∧
        (c.monitor.serve 4 [(0, .dequeue), (0, .search fun _ _ ↦ .panic), (0, .enqueue "d"),
          (0, .dequeue), (0, .removeAt 1), (0, .items)]).map Prod.fst =
          some [.item (some "a"), .finding (.interrupted 0), .index (some 2),
            .item (some "b"), .removal (.ok 1), .items ["c"]] := by
  let ask : Examiner Nat String := fun asked _ ↦ (if asked = 1 then .panic else .no, asked + 1)
  have h := (reachable_empty : Reachable (empty : Crowd String))
    |>.step (.make 0 (.enqueue "a") rfl) |>.step (.enter 0 0 rfl)
    |>.step (.make 1 (.enqueue "b") rfl) |>.step (.enter 1 0 rfl)
    |>.step (.make 2 (.enqueue "c") rfl) |>.step (.enter 2 0 rfl)
    |>.step (.make 3 (.search (ask.probe 0)) rfl)
  exact ⟨_, _, ⟨3, 3, .search (ask.probe 0), .finding (.interrupted 1)⟩, ask, h, rfl, rfl,
    (search_leaves_no_trace _ ask 0).1 3 3 rfl, .enter 3 0 rfl, rfl, rfl, rfl, rfl,
    (search_leaves_no_trace _ ask 0).2 _ _ (.enter 3 0 rfl) rfl rfl, rfl⟩

end QueueJournal.Crowd
