import QueueJournal.Proofs.Monitor.Section

/-!
# Finding and removing

A thread can remove the items that equal a target one after the other: it finds the first, removes
it, and goes on until none is found (`Monitor.purge`). No index that is found is out of range, since
each is found in the queue that it is used on, and each removal leaves one item fewer; so the
removals end, and no item is left that equals the target (`Monitor.purge_eq`). Equality need not be
reflexive: what matters is which items equal the target, not whether the target equals itself.

A removal that insists on its index and one that only tries are made in different ways, and come to
the same (`Monitor.exists_removesAlike`). The first breaks off if the index is out of range, where
the other has nothing to tell. Since it has dropped its guard by then, this does not poison the
lock.
-/

namespace QueueJournal

namespace Queue

variable {α : Type} {q : Queue α} {target : α} {index : Nat}

/-- **What is found is the first item that equals the target.** -/
theorem exists_of_indexOf [Item α] (h : q.indexOf target = some index) :
    ∃ before a after, q.items = before ++ a :: after ∧ before.length = index ∧
      (∀ b ∈ before, Item.same b target = false) ∧ Item.same a target = true := by
  rw [indexOf_eq_findIdx?, List.findIdx?_eq_some_iff_getElem] at h
  obtain ⟨hlt, hsame, hfirst⟩ := h
  refine ⟨q.items.take index, q.items[index], q.items.drop (index + 1), ?_, ?_, ?_, hsame⟩
  · rw [← List.drop_eq_getElem_cons hlt, List.take_append_drop]
  · rw [List.length_take, Nat.min_eq_left (Nat.le_of_lt hlt)]
  · intro b hb
    obtain ⟨j, hj, rfl⟩ := List.mem_take_iff_getElem.1 hb
    rw [Nat.lt_min] at hj
    simpa using hfirst j hj.1

end Queue

namespace Monitor

variable {α : Type} {m m' : Monitor α} {target : α} {index length : Nat}

/-- The monitor with other items. Its queue is as open as before and has as many places, and the
lock and the threads are as they were. -/
def withItems (m : Monitor α) (items : List α) : Monitor α :=
  { m with queue := { m.queue with items } }

theorem length_lt_of_removeAt (h : m.removeAt index = (.ok length, m')) :
    m'.queue.length < m.queue.length := by
  rcases Nat.lt_or_ge index m.queue.length with hlt | hge
  · rw [removeAt_of_lt hlt] at h
    obtain ⟨-, rfl⟩ := Prod.mk.inj h
    rw [Queue.length, List.length_eraseIdx_of_lt hlt]
    exact Nat.sub_one_lt_of_lt hlt
  · simp [removeAt_of_le hge] at h

/-- A thread that looks at the queue leaves the monitor as it is. -/
theorem of_look {β : Type} {f : Queue α → β} {b : β} (h : m.look f = (b, m')) :
    f m.queue = b ∧ m = m' :=
  Prod.mk.inj ((m.look_eq f).symm.trans h)

variable [Item α]

/-- Removes the first item that equals the target, and goes on until none is found. Gives the length
after each removal; an index that is out of range ends it. -/
def purge (m : Monitor α) (target : α) : Except Queue.OutOfRange (List Nat) × Monitor α :=
  match _ : m.look fun q ↦ q.indexOf target with
  | (none, m') => (.ok [], m')
  | (some index, m') =>
    match _ : m'.removeAt index with
    | (.error e, m'') => (.error e, m'')
    | (.ok length, m'') =>
      let (lengths, m''') := m''.purge target
      (lengths.map (length :: ·), m''')
termination_by m.queue.length
decreasing_by
  obtain ⟨-, rfl⟩ := of_look ‹_›
  exact length_lt_of_removeAt ‹_›

/-- One removal takes out the first item that equals the target. -/
def TakesOutFirst (m : Monitor α) (target : α) (index : Nat) : Prop :=
  ∃ before a after, m.queue.items = before ++ a :: after ∧ before.length = index ∧
    (∀ b ∈ before, Item.same b target = false) ∧ Item.same a target = true ∧
      m.removeAt index = (.ok (m.queue.length - 1), m.withItems (before ++ after))

theorem takesOutFirst_of_indexOf (h : m.queue.indexOf target = some index) :
    m.TakesOutFirst target index := by
  obtain ⟨before, a, after, hitems, hlength, hbefore, hsame⟩ := Queue.exists_of_indexOf h
  refine ⟨before, a, after, hitems, hlength, hbefore, hsame, ?_⟩
  have hlt : index < m.queue.length := by
    rw [Queue.length, hitems, List.length_append, List.length_cons]
    omega
  have herase : (before ++ a :: after).eraseIdx index = before ++ after := by
    rw [List.eraseIdx_append_of_length_le (Nat.le_of_eq hlength), hlength, Nat.sub_self]
    rfl
  rw [removeAt_of_lt hlt, withItems, hitems, herase]

/-- The lengths after so many removals, each of which leaves one item fewer. -/
def countdown (length rounds : Nat) : List Nat :=
  (List.range rounds).map fun round ↦ length - (round + 1)

theorem countdown_succ (length rounds : Nat) :
    countdown length (rounds + 1) = (length - 1) :: countdown (length - 1) rounds := by
  rw [countdown, countdown, List.range_succ_eq_map, List.map_cons, List.map_map]
  congr 1
  refine List.map_congr_left fun round _ ↦ ?_
  simp only [Function.comp_apply]
  omega

/-- **Finding and removing ends with the items that differ from the target**, in their order, after
as many removals as there were items that equal it. -/
theorem purge_eq (m : Monitor α) (target : α) : m.purge target =
    (.ok (countdown m.queue.length (m.queue.items.countP (Item.same · target))),
      m.withItems (m.queue.items.filter (!Item.same · target))) := by
  fun_induction purge m target with
  | case1 m m' hlook =>
    obtain ⟨hnone, rfl⟩ := of_look hlook
    rw [Queue.indexOf_eq_findIdx?, List.findIdx?_eq_none_iff] at hnone
    have hcount : m.queue.items.countP (Item.same · target) = 0 :=
      List.countP_eq_zero.2 fun a ha ↦ by simp [hnone a ha]
    have hfilter : m.queue.items.filter (!Item.same · target) = m.queue.items :=
      List.filter_eq_self.2 fun a ha ↦ by simp [hnone a ha]
    rw [hcount, hfilter]
    rfl
  | case2 m index m' hlook e m'' hremove =>
    obtain ⟨hindex, rfl⟩ := of_look hlook
    obtain ⟨before, a, after, -, -, -, -, hremove'⟩ := takesOutFirst_of_indexOf hindex
    simp [hremove'] at hremove
  | case3 m index m' hlook length m'' hremove lengths m''' hrest ih =>
    obtain ⟨hindex, rfl⟩ := of_look hlook
    obtain ⟨before, a, after, hitems, -, -, hsame, hremove'⟩ := takesOutFirst_of_indexOf hindex
    obtain ⟨rfl, rfl⟩ : m.queue.length - 1 = length ∧ m.withItems (before ++ after) = m'' := by
      simpa [hremove'] using hremove
    obtain ⟨rfl, rfl⟩ := Prod.mk.inj (hrest.symm.trans ih)
    have hcount : m.queue.items.countP (Item.same · target) =
        (before ++ after).countP (Item.same · target) + 1 := by
      rw [hitems, List.countP_append, List.countP_append, List.countP_cons_of_pos (by exact hsame),
        Nat.add_assoc]
    have hfilter : m.queue.items.filter (!Item.same · target) =
        (before ++ after).filter (!Item.same · target) := by
      rw [hitems, List.filter_append, List.filter_append, List.filter_cons_of_neg (by simp [hsame])]
    have hlength : (m.withItems (before ++ after)).queue.length = m.queue.length - 1 := by
      rw [Queue.length, Queue.length, hitems, withItems, List.length_append, List.length_append]
      rfl
    rw [hcount, hfilter, countdown_succ, ← hlength]
    rfl

/-! ### Two ways to remove an item -/

/-- Removing the item at an index and trying to do so come to the same. -/
structure RemovesAlike (m : Monitor α) (thread pick index : Nat)
    (outcome : Except Queue.OutOfRange Nat) (m' : Monitor α) : Prop where
  /-- A thread that removes the item is told the length that is left, or breaks off. -/
  removing : m.act thread pick (.removeAt index) = (some (.removal outcome), m')
  /-- A thread that tries to is told the same length, or nothing where the other breaks off, and
  leaves the same behind. -/
  trying : m.act thread pick (.tryRemoveAt index) = (some (.remaining outcome.toOption), m')
  /-- An index in range takes out its item and leaves one item fewer. -/
  inRange : index < m.queue.length →
    outcome = .ok (m.queue.length - 1) ∧ m' = m.withItems (m.queue.items.eraseIdx index)
  /-- An index out of range changes nothing. -/
  outOfRange : m.queue.length ≤ index → outcome = .error ⟨index, m.queue.length⟩ ∧ m' = m
  /-- The lock is as sound as before, whether or not the thread breaks off. -/
  sound : m'.poisoned = m.poisoned

theorem exists_removesAlike (m : Monitor α) (thread pick index : Nat) :
    ∃ outcome m', m.RemovesAlike thread pick index outcome m' := by
  rcases Nat.lt_or_ge index m.queue.length with hlt | hge
  · refine ⟨.ok (m.queue.length - 1), m.withItems (m.queue.items.eraseIdx index), ?_, ?_,
      fun _ ↦ ⟨rfl, rfl⟩, fun hge ↦ absurd hge (Nat.not_le.2 hlt), rfl⟩
    · rw [act, removeAt_of_lt hlt, withItems]
    · rw [act, onQueue_eq, Queue.tryRemoveAt_of_lt hlt, withItems, Except.toOption]
  · refine ⟨.error ⟨index, m.queue.length⟩, m, ?_, ?_, fun hlt ↦ absurd hlt (Nat.not_lt.2 hge),
      fun _ ↦ ⟨rfl, rfl⟩, rfl⟩
    · rw [act, removeAt_of_le hge]
    · rw [act, onQueue_eq, Queue.tryRemoveAt_of_le hge, Except.toOption]

/-- **Finding and removing agree.** Whatever equality means for the items, finding and removing what
equals a target is never stopped by an index out of range. It removes as many items as equal the
target, the first one each time, leaves one item fewer each time, and ends with the items that
differ from the target; nothing else changes. At every index, removing an item and trying to come to
the same, and neither poisons the lock. -/
theorem finding_agrees_with_removing (m : Monitor α) :
    (∀ target, m.purge target =
      (.ok (countdown m.queue.length (m.queue.items.countP (Item.same · target))),
        m.withItems (m.queue.items.filter (!Item.same · target)))) ∧
      (∀ target index, m.queue.indexOf target = some index → m.TakesOutFirst target index) ∧
      ∀ thread pick index, ∃ outcome m', m.RemovesAlike thread pick index outcome m' :=
  ⟨m.purge_eq, fun _ _ ↦ takesOutFirst_of_indexOf, m.exists_removesAlike⟩

/-- Numbers of either sign that are zero are removed, and those that are not numbers are left, since
they do not even equal themselves. Either removal takes out the item at the index three, and neither
does anything at the index five. -/
theorem finding_agrees_with_removing_zeros :
    ∃ (m : Monitor Binary64) (nan zero : Binary64),
      m.queue.items = [nan, zero, zero.negate, nan, zero] ∧ Item.same nan nan = false ∧
        m.purge zero = (.ok [4, 3, 2], m.withItems [nan, nan]) ∧
        m.purge nan = (.ok [], m) ∧ m.queue.indexOf zero = some 1 ∧ m.TakesOutFirst zero 1 ∧
        m.poisoned = false ∧
        m.act 0 0 (.removeAt 3) =
          (some (.removal (.ok 4)), m.withItems [nan, zero, zero.negate, zero]) ∧
        m.act 0 0 (.tryRemoveAt 3) =
          (some (.remaining (some 4)), m.withItems [nan, zero, zero.negate, zero]) ∧
        m.act 0 0 (.removeAt 5) = (some (.removal (.error ⟨5, 5⟩)), m) ∧
        m.act 0 0 (.tryRemoveAt 5) = (some (.remaining none), m) := by
  let nan : Binary64 := ⟨0x7ff8000000000000⟩
  let zero : Binary64 := .zero
  let m : Monitor Binary64 := ⟨⟨⟨[nan, zero, zero.negate, nan, zero], false, 8⟩, false⟩, [], []⟩
  have hzeros : m.queue.items.countP (Item.same · zero) = 3 ∧
      m.queue.items.filter (!Item.same · zero) = [nan, nan] := by decide
  have hnans : m.queue.items.countP (Item.same · nan) = 0 ∧
      m.queue.items.filter (!Item.same · nan) = m.queue.items := by decide
  obtain ⟨_, _, hthree⟩ := (finding_agrees_with_removing m).2.2 0 0 3
  obtain ⟨rfl, rfl⟩ := hthree.inRange (by decide)
  obtain ⟨_, _, hfive⟩ := (finding_agrees_with_removing m).2.2 0 0 5
  obtain ⟨rfl, rfl⟩ := hfive.outOfRange (by decide)
  refine ⟨m, nan, zero, rfl, by decide, ?_, ?_, by decide, ?_, rfl, hthree.removing, hthree.trying,
    hfive.removing, hfive.trying⟩
  · rw [(finding_agrees_with_removing m).1 zero, hzeros.1, hzeros.2]
    rfl
  · rw [(finding_agrees_with_removing m).1 nan, hnans.1, hnans.2]
    rfl
  · exact (finding_agrees_with_removing m).2.1 zero 1 (by decide)

end Monitor

end QueueJournal
