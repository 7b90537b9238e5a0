import Mathlib.Data.List.Nodup
import QueueJournal.Proofs.Crowd.Basic

/-!
# The history of a crowd

A `Chronicle` is a history in which calls are made with numbers one after another, each is done at
most once and after it was made, and threads return from calls that are done. The history of every
crowd that can be reached is one (`recorded_of_reachable`).

In a chronicle the calls done stand in an order that respects time: a call that returned before
another was made was done before it (`Chronicle.realTime`).
-/

namespace QueueJournal

/-- The call that a thread has made and that is not done. -/
def Stage.pending? {α : Type} : Stage α → Option (Nat × Call α)
  | called number call => some (number, call)
  | waiting number => some (number, .dequeue)
  | _ => none

/-- What can happen when that many calls have been made. -/
inductive Chronicle {α : Type} : Nat → List (Moment α) → Prop where
  /-- Nothing has happened. -/
  | nil : Chronicle 0 []
  /-- A call is made with the next number. -/
  | called {n : Nat} {history : List (Moment α)} (before : Chronicle n history) (thread : Nat)
    (call : Call α) : Chronicle (n + 1) (history ++ [.called n thread call])
  /-- A call that was made is done for the first time. -/
  | done {n : Nat} {history : List (Moment α)} (before : Chronicle n history) {deed : Deed α}
    (made : .called deed.number deed.thread deed.call ∈ history)
    (first : ∀ d, .done d ∈ history → d.number ≠ deed.number) :
    Chronicle n (history ++ [.done deed])
  /-- A thread returns from a call that is done. -/
  | returned {n : Nat} {history : List (Moment α)} (before : Chronicle n history) {deed : Deed α}
    (done : .done deed ∈ history) : Chronicle n (history ++ [.returned deed])

/-- Two entries stand in order in a list with one more at the end. -/
theorem pair_sublist_append_singleton {β : Type} {x y z : β} {l : List β} :
    [x, y].Sublist (l ++ [z]) ↔ [x, y].Sublist l ∨ (x ∈ l ∧ y = z) := by
  constructor
  · intro h
    obtain ⟨before, after, heq, hbefore, hafter⟩ := List.sublist_append_iff.1 h
    rcases List.sublist_cons_iff.1 hafter with hnil | ⟨rest, rfl, hnil⟩
    · rw [List.sublist_nil.1 hnil, List.append_nil] at heq
      exact .inl (heq ▸ hbefore)
    · rw [List.sublist_nil.1 hnil] at heq
      have heq' : [x] ++ [y] = before ++ [z] := heq
      obtain ⟨rfl, hyz⟩ := List.append_inj' heq' rfl
      exact .inr ⟨List.singleton_sublist.1 hbefore, List.head_eq_of_cons_eq hyz⟩
  · rintro (h | ⟨hmem, rfl⟩)
    · exact h.trans (List.sublist_append_left ..)
    · exact (List.singleton_sublist.2 hmem).append (.refl [y])

namespace Chronicle

variable {α : Type} {n k t t' : Nat} {call call' : Call α} {history : List (Moment α)}
  {deed a b : Deed α}

theorem number_lt (h : Chronicle n history) (hmem : .called k t call ∈ history) : k < n := by
  induction h with
  | nil => cases hmem
  | called before thread call ih =>
    rcases List.mem_append.1 hmem with hold | hnew
    · exact Nat.lt_succ_of_lt (ih hold)
    · obtain ⟨rfl, -, -⟩ := Moment.called.inj (List.mem_singleton.1 hnew)
      exact Nat.lt_succ_self _
  | done before made first ih => exact ih (by simpa using hmem)
  | returned before done ih => exact ih (by simpa using hmem)

/-- No two calls have one number. -/
theorem called_unique (h : Chronicle n history) (hmem : .called k t call ∈ history)
    (hmem' : .called k t' call' ∈ history) : t = t' ∧ call = call' := by
  induction h with
  | nil => cases hmem
  | called before thread call ih =>
    rw [List.mem_append, List.mem_singleton] at hmem hmem'
    -- The next number is above those that were given.
    rcases hmem with hold | hnew <;> rcases hmem' with hold' | hnew'
    · exact ih hold hold'
    · obtain ⟨rfl, -, -⟩ := Moment.called.inj hnew'
      exact absurd (before.number_lt hold) (Nat.lt_irrefl _)
    · obtain ⟨rfl, -, -⟩ := Moment.called.inj hnew
      exact absurd (before.number_lt hold') (Nat.lt_irrefl _)
    · obtain ⟨-, rfl, rfl⟩ := Moment.called.inj hnew
      obtain ⟨-, rfl, rfl⟩ := Moment.called.inj hnew'
      exact ⟨rfl, rfl⟩
  | done before made first ih => exact ih (by simpa using hmem) (by simpa using hmem')
  | returned before done ih => exact ih (by simpa using hmem) (by simpa using hmem')

theorem called_of_done (h : Chronicle n history) (hmem : .done deed ∈ history) :
    .called deed.number deed.thread deed.call ∈ history := by
  induction h with
  | nil => cases hmem
  | called before thread call ih => exact List.mem_append_left _ (ih (by simpa using hmem))
  | done before made first ih =>
    rcases List.mem_append.1 hmem with hold | hnew
    · exact List.mem_append_left _ (ih hold)
    · obtain rfl := Moment.done.inj (List.mem_singleton.1 hnew)
      exact List.mem_append_left _ made
  | returned before done ih => exact List.mem_append_left _ (ih (by simpa using hmem))

theorem done_of_returned (h : Chronicle n history) (hmem : .returned deed ∈ history) :
    .done deed ∈ history := by
  induction h with
  | nil => cases hmem
  | called before thread call ih => exact List.mem_append_left _ (ih (by simpa using hmem))
  | done before made first ih => exact List.mem_append_left _ (ih (by simpa using hmem))
  | returned before done ih =>
    rcases List.mem_append.1 hmem with hold | hnew
    · exact List.mem_append_left _ (ih hold)
    · obtain rfl := Moment.returned.inj (List.mem_singleton.1 hnew)
      exact List.mem_append_left _ done

/-- No call is done twice. -/
theorem nodup_number (h : Chronicle n history) : ((deedsOf history).map Deed.number).Nodup := by
  induction h with
  | nil => exact List.nodup_nil
  | called before thread call ih => rwa [deedsOf_called]
  | done before made first ih =>
    rw [deedsOf_done, List.map_append, List.nodup_append_comm]
    refine List.nodup_cons.2 ⟨fun hmem ↦ ?_, ih⟩
    obtain ⟨d, hd, heq⟩ := List.mem_map.1 hmem
    exact first d (mem_deedsOf_iff.1 hd) heq
  | returned before done ih => rwa [deedsOf_returned]

/-- A call that returned before another was made was done before it. -/
theorem realTime (h : Chronicle n history)
    (hbefore : [.returned a, .called b.number b.thread b.call].Sublist history)
    (hb : b ∈ deedsOf history) : [a, b].Sublist (deedsOf history) := by
  induction h with
  | nil => cases hb
  | called before thread call ih =>
    rw [deedsOf_called] at hb ⊢
    rcases pair_sublist_append_singleton.1 hbefore with hold | ⟨-, hnew⟩
    · exact ih hold hb
    · -- The call that is made now is not done.
      obtain ⟨heq, -, -⟩ := Moment.called.inj hnew
      exact absurd (before.number_lt (before.called_of_done (mem_deedsOf_iff.1 hb))) (by omega)
  | done before made first ih =>
    rw [deedsOf_done] at hb ⊢
    rcases pair_sublist_append_singleton.1 hbefore with hold | ⟨-, hnew⟩
    · rcases List.mem_append.1 hb with hb | hlast
      · exact (ih hold hb).trans (List.sublist_append_left ..)
      · -- The call that is done now comes last, and the other has returned.
        obtain rfl := List.mem_singleton.1 hlast
        have ha := before.done_of_returned (hold.subset List.mem_cons_self)
        exact pair_sublist_append_singleton.2 (.inr ⟨mem_deedsOf_iff.2 ha, rfl⟩)
    · cases hnew
  | returned before done ih =>
    rw [deedsOf_returned] at hb ⊢
    rcases pair_sublist_append_singleton.1 hbefore with hold | ⟨-, hnew⟩
    · exact ih hold hb
    · cases hnew

end Chronicle

namespace Crowd

variable {α : Type} {c c' : Crowd α} {thread number : Nat} {call : Call α} {result : Result α}
  {deed : Deed α}

/-- A call has been made by a thread and is not done. -/
structure Pending (history : List (Moment α)) (thread number : Nat) (call : Call α) : Prop where
  /-- It was made. -/
  made : .called number thread call ∈ history
  /-- It is not done. -/
  undone : ∀ d, .done d ∈ history → d.number ≠ number

/-- A call stays pending until it is done. -/
theorem Pending.grow {history : List (Moment α)} (h : Pending history thread number call)
    {moment : Moment α} (hother : ∀ d, moment = .done d → d.number ≠ number) :
    Pending (history ++ [moment]) thread number call where
  made := List.mem_append_left _ h.made
  undone d hd := by
    rcases List.mem_append.1 hd with hold | hnew
    · exact h.undone d hold
    · exact hother d (List.mem_singleton.1 hnew).symm

/-- The history is a chronicle, and says of each call where its thread stands. -/
structure Recorded (c : Crowd α) : Prop where
  /-- The history is a chronicle. -/
  chronicle : Chronicle c.calls c.history
  /-- The call of a thread that has not ended it is pending. -/
  pending : ∀ t n call, (c.stage t).pending? = some (n, call) → Pending c.history t n call
  /-- The call of a thread that leaves is done. -/
  leaving : ∀ t deed, c.stage t = .leaving deed → .done deed ∈ c.history

theorem recorded_empty : (empty : Crowd α).Recorded where
  chronicle := .nil
  pending t n call h := by simp [empty, Stage.pending?] at h
  leaving t deed h := by simp [empty] at h

/-- When one thread goes on, what is recorded of the others stays. -/
theorem Recorded.update (h : c.Recorded) {s : Stage α} (chronicle : Chronicle c'.calls c'.history)
    (hstage : c'.stage = Function.update c.stage thread s) (hgrow : c.history ⊆ c'.history)
    (hothers : ∀ t n call, t ≠ thread → Pending c.history t n call → Pending c'.history t n call)
    (hpending : ∀ n call, s.pending? = some (n, call) → Pending c'.history thread n call)
    (hleaving : ∀ deed, s = .leaving deed → .done deed ∈ c'.history) : c'.Recorded := by
  refine ⟨chronicle, ?_, ?_⟩
  · intro t n call hstands
    rw [hstage] at hstands
    rcases eq_or_ne t thread with rfl | hne
    · exact hpending n call (by simpa using hstands)
    · rw [Function.update_of_ne hne] at hstands
      exact hothers t n call hne (h.pending t n call hstands)
  · intro t deed hstands
    rw [hstage] at hstands
    rcases stage_update_cases hstands with ⟨rfl, hnew⟩ | hold
    · exact hleaving deed hnew
    · exact hgrow (h.leaving t deed hold)

/-- A thread makes a call. Its number is new, so no call with it is done. -/
theorem Recorded.make (h : c.Recorded) : (c.make thread call).Recorded := by
  refine h.update (.called h.chronicle thread call) rfl (List.subset_append_left ..)
    (fun t n call' _ hpending ↦ hpending.grow (by simp)) ?_ (by simp)
  intro n call' hnew
  obtain ⟨rfl, rfl⟩ : c.calls = n ∧ call = call' := by simpa [Stage.pending?] using hnew
  refine ⟨List.mem_append_right _ (List.mem_singleton.2 rfl), fun d hd ↦ ?_⟩
  have hdone : .done d ∈ c.history := by simpa [Crowd.make] using hd
  exact Nat.ne_of_lt (h.chronicle.number_lt (h.chronicle.called_of_done hdone))

/-- A thread falls asleep in its call, which stays pending. -/
theorem Recorded.sleep (h : c.Recorded) {monitor : Monitor α}
    (hpending : (c.stage thread).pending? = some (number, .dequeue)) :
    (c.sleep thread number monitor).Recorded := by
  refine h.update (s := .waiting number) h.chronicle rfl (List.Subset.refl _)
    (fun _ _ _ _ hother ↦ hother) ?_ (by simp)
  intro n call' hsame
  obtain ⟨rfl, rfl⟩ : number = n ∧ .dequeue = call' := by simpa [Stage.pending?] using hsame
  exact h.pending thread number .dequeue hpending

/-- A thread ends its call, which is pending. -/
theorem Recorded.finish (h : c.Recorded) {monitor : Monitor α}
    (hpending : (c.stage deed.thread).pending? = some (deed.number, deed.call)) :
    (c.finish deed monitor).Recorded := by
  obtain ⟨made, undone⟩ := h.pending _ _ _ hpending
  refine h.update (.done h.chronicle made undone) rfl (List.subset_append_left ..) ?_
    (by simp [Stage.pending?]) ?_
  · intro t n call' hne hother
    refine hother.grow fun d hd ↦ ?_
    obtain rfl := Moment.done.inj hd
    rintro rfl
    -- Another thread would have made the same call.
    exact hne (h.chronicle.called_unique hother.made made).1
  · rintro d hd
    obtain rfl := Stage.leaving.inj hd
    exact List.mem_append_right _ (List.mem_singleton.2 rfl)

/-- A thread returns from its call, which is done. -/
theorem Recorded.depart (h : c.Recorded) (hleaving : c.stage thread = .leaving deed) :
    (c.depart thread deed).Recorded :=
  h.update (.returned h.chronicle (h.leaving thread deed hleaving)) rfl
    (List.subset_append_left ..) (fun _ _ _ _ hother ↦ hother.grow (by simp))
    (by simp [Stage.pending?]) (by simp)

variable [Item α]

theorem Recorded.step (h : c.Recorded) (hstep : Step c c') : c'.Recorded := by
  cases hstep.move with
  | make => exact h.make
  | sleep called => exact h.sleep (by rw [called, Stage.pending?])
  | finish called => exact h.finish (by rw [called, Stage.pending?])
  | sleepAgain waiting => exact h.sleep (by rw [waiting, Stage.pending?])
  | finishLate waiting => exact h.finish (by rw [waiting, Stage.pending?])
  | stir => exact ⟨h.chronicle, h.pending, h.leaving⟩
  | depart leaving => exact h.depart leaving

/-- **The history of a crowd is a chronicle.** -/
theorem recorded_of_reachable (h : Reachable c) : c.Recorded := by
  induction h with
  | refl => exact recorded_empty
  | tail _ hstep ih => exact ih.step hstep

end Crowd

end QueueJournal
