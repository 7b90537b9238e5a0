import Mathlib.Algebra.Ring.Nat
import Mathlib.Data.List.Induction
import Mathlib.Data.List.Nodup
import QueueJournal.Proofs.Queue.Departure

/-!
# Where the items of a queue are

Items are numbered 1, 2, 3, … as they are put, so that equal items are told apart. A `Ledger` is
kept of the calls of a queue, from what was asked and answered alone: the items that were put, the
numbers of those in the queue, and for each call the numbers of those that left by it.

A ledger *balances* with a queue (`Ledger.Balances`) when the numbers stand for the items in the
queue and each number is there or has left once. Posting a call with its effect keeps it balanced
(`Ledger.Balances.post`), so the ledger of any run from a new queue balances (`balances_of_runs`).
-/

namespace QueueJournal

/-- A call, its answer, and the numbers of the items that left by it. -/
structure Entry (α : Type) where
  /-- What was asked. -/
  call : Call α
  /-- What was answered. -/
  result : Result α
  /-- The numbers of the items that left. -/
  gone : List Nat

/-- How items left by a call. -/
def Entry.way {α : Type} (e : Entry α) : Departure :=
  departure e.call e.result

/-- The items put in a queue and where they are. -/
structure Ledger (α : Type) where
  /-- The items that were put. They are numbered from 1. -/
  put : List α
  /-- The numbers of the items in the queue, head first. -/
  buffered : List Nat
  /-- The calls that have been answered. -/
  entries : List (Entry α)

/-- Where an item is. -/
inductive Place where
  /-- It is in the queue. -/
  | buffered
  /-- It left by the call at a position. -/
  | left (position : Nat) (way : Departure)

namespace Ledger

variable {α : Type}

/-- The ledger of a new queue. -/
def empty : Ledger α := ⟨[], [], []⟩

/-- The item with a number. -/
def item? (L : Ledger α) : Nat → Option α
  | 0 => none
  | n + 1 => L.put[n]?

/-- The numbers of the items that were handed out, in the order of the calls. -/
def delivered (L : Ledger α) : List Nat :=
  (L.entries.filter fun e ↦ e.way = .delivery).flatMap Entry.gone

/-- The numbers of the items that have left. -/
def gone (L : Ledger α) : List Nat :=
  L.entries.flatMap Entry.gone

/-- An item is at a place. -/
def Holds (L : Ledger α) (n : Nat) : Place → Prop
  | .buffered => n ∈ L.buffered
  | .left position way => ∃ e, L.entries[position]? = some e ∧ e.way = way ∧ n ∈ e.gone

/-- Enter a call that has been answered. -/
def post (L : Ledger α) (call : Call α) (result : Result α) : Ledger α where
  put := L.put ++ (arrival? call result).toList
  buffered := (departure call result).rest L.buffered ++
    (arrival? call result).toList.map fun _ ↦ L.put.length + 1
  entries := L.entries ++ [⟨call, result, (departure call result).gone L.buffered⟩]

/-- The ledger of calls on a new queue. -/
def ofCalls (calls : List (Call α × Result α)) : Ledger α :=
  calls.foldl (fun L (call, result) ↦ L.post call result) empty

/-- A ledger agrees with a queue. -/
structure Balances (L : Ledger α) (q : Queue α) : Prop where
  /-- The numbers in the queue stand for its items. -/
  items : L.buffered.map L.item? = q.items.map some
  /-- What was handed out and what is in the queue was put in this order. -/
  increasing : (L.delivered ++ L.buffered).Pairwise (· < ·)
  /-- Each number that was given is in the queue or has left, and but once. -/
  once : (L.gone ++ L.buffered).Perm (List.range' 1 L.put.length)
  /-- The answers tell what has left. -/
  told : ∀ e ∈ L.entries, ∃ items, e.gone.map L.item? = items.map some ∧ e.result.Tells e.call items

variable {L : Ledger α} {q q' : Queue α} {call : Call α} {result : Result α} {n : Nat}

/-! ### Posting a call -/

/-- An item keeps its number. -/
theorem item?_post {a : α} (h : L.item? n = some a) : (L.post call result).item? n = some a := by
  cases n with
  | zero => exact h
  | succ n =>
    obtain ⟨hlt, -⟩ := List.getElem?_eq_some_iff.1 h
    exact (List.getElem?_append_left hlt).trans h

theorem map_item?_post {numbers : List Nat} {items : List α}
    (h : numbers.map L.item? = items.map some) :
    numbers.map (L.post call result).item? = items.map some := by
  induction numbers generalizing items with
  | nil => simpa using h
  | cons n numbers ih =>
    cases items with
    | nil => simp at h
    | cons a items =>
      simp only [List.map_cons, List.cons.injEq] at h ⊢
      exact ⟨item?_post h.1, ih h.2⟩

/-- The item that a call puts has the next number. -/
theorem map_item?_arrival :
    ((arrival? call result).toList.map fun _ ↦ L.put.length + 1).map (L.post call result).item? =
      (arrival? call result).toList.map some := by
  cases harrival : arrival? call result with
  | none => rfl
  | some a => simp [item?, post, harrival]

theorem gone_post :
    (L.post call result).gone = L.gone ++ (departure call result).gone L.buffered := by
  simp [gone, post]

/-- What was handed out before and after stands in the ledger before. -/
theorem delivered_post_append_rest_sublist (L : Ledger α) (call : Call α) (result : Result α) :
    ((L.post call result).delivered ++ (departure call result).rest L.buffered).Sublist
      (L.delivered ++ L.buffered) := by
  by_cases hway : departure call result = .delivery
  · have hdelivered : (L.post call result).delivered = L.delivered ++ L.buffered.take 1 := by
      simp [delivered, post, Entry.way, hway, Departure.gone]
    rw [hdelivered, hway, Departure.rest, List.append_assoc, List.take_append_drop]
  · have hdelivered : (L.post call result).delivered = L.delivered := by
      simp [delivered, post, Entry.way, hway]
    rw [hdelivered]
    exact (List.Sublist.refl _).append (Departure.rest_sublist ..)

theorem delivered_subset_gone : L.delivered ⊆ L.gone := by
  intro n hn
  obtain ⟨e, he, hmem⟩ := List.mem_flatMap.1 hn
  exact List.mem_flatMap.2 ⟨e, List.mem_of_mem_filter he, hmem⟩

theorem balances_empty : (empty : Ledger α).Balances .empty where
  items := rfl
  increasing := List.Pairwise.nil
  once := .rfl
  told _ he := absurd he List.not_mem_nil

/-- Only numbers that were given stand in a ledger that balances. -/
theorem Balances.le_length (h : L.Balances q) (hmem : n ∈ L.delivered ++ L.buffered) :
    n ≤ L.put.length := by
  have hgiven : n ∈ List.range' 1 L.put.length := by
    rw [← h.once.mem_iff]
    rw [List.mem_append] at hmem ⊢
    exact hmem.imp_left fun hn ↦ delivered_subset_gone hn
  rw [List.mem_range'_1] at hgiven
  omega

variable [Item α]

/-- **Posting a call keeps a ledger balanced.** -/
theorem Balances.post (h : L.Balances q) (heffect : Queue.Effect q call result q') :
    (L.post call result).Balances q' where
  items := by
    have hrest : ((departure call result).rest L.buffered).map L.item? =
        ((departure call result).rest q.items).map some := by
      rw [Departure.map_rest, h.items, Departure.map_rest]
    rw [heffect.items_eq, List.map_append, ← map_item?_post hrest, ← map_item?_arrival]
    exact List.map_append
  increasing := by
    have hbefore := h.increasing.sublist (L.delivered_post_append_rest_sublist call result)
    rw [Ledger.post, ← List.append_assoc]
    -- The number of the item that is put is above all that were given before.
    refine List.pairwise_append.2 ⟨hbefore, ?_, ?_⟩
    · cases arrival? call result <;> simp
    · intro n hn m hm
      obtain ⟨a, -, rfl⟩ := List.mem_map.1 hm
      have hold := (L.delivered_post_append_rest_sublist call result).subset hn
      exact Nat.lt_succ_of_le (h.le_length hold)
  once := by
    have hnew : (List.range' 1 L.put.length ++
        (arrival? call result).toList.map fun _ ↦ L.put.length + 1) =
          List.range' 1 (L.post call result).put.length := by
      cases harrival : arrival? call result with
      | none => simp [Ledger.post, harrival]
      | some a => simp [Ledger.post, harrival, List.range'_1_concat, Nat.add_comm]
    rw [gone_post, ← hnew, Ledger.post, ← List.append_assoc]
    refine .append_right _ ?_
    -- What leaves by the call goes from the buffered numbers to those that have left.
    rw [List.append_assoc]
    exact ((Departure.gone_append_rest_perm ..).append_left _).trans h.once
  told e he := by
    rcases List.mem_append.1 he with hold | hlast
    · obtain ⟨items, hitems, htells⟩ := h.told e hold
      exact ⟨items, map_item?_post hitems, htells⟩
    · obtain rfl := List.mem_singleton.1 hlast
      refine ⟨_, map_item?_post ?_, heffect.tells⟩
      rw [Departure.map_gone, h.items, Departure.map_gone]

omit [Item α] in
theorem ofCalls_snoc (calls : List (Call α × Result α)) :
    ofCalls (calls ++ [(call, result)]) = (ofCalls calls).post call result := by
  simp [ofCalls, List.foldl_append]

/-- **The ledger of a run balances.** -/
theorem balances_of_runs {calls : List (Call α × Result α)}
    (h : Queue.Runs Queue.Effect .empty calls q) : (ofCalls calls).Balances q := by
  induction h with
  | nil => exact balances_empty
  | snoc _ last ih =>
    rw [ofCalls_snoc]
    exact ih.post last

/-! ### What a balanced ledger says -/

omit [Item α]

theorem calls_ofCalls (calls : List (Call α × Result α)) :
    (ofCalls calls).entries.map (fun e ↦ (e.call, e.result)) = calls := by
  induction calls using List.reverseRecOn with
  | nil => rfl
  | append_singleton calls deal ih =>
    obtain ⟨call, result⟩ := deal
    simp [ofCalls_snoc, post, ih]

theorem put_ofCalls (calls : List (Call α × Result α)) :
    (ofCalls calls).put = calls.filterMap fun (call, result) ↦ arrival? call result := by
  induction calls using List.reverseRecOn with
  | nil => rfl
  | append_singleton calls deal ih =>
    obtain ⟨call, result⟩ := deal
    rw [ofCalls_snoc, post, ih, List.filterMap_append]
    cases harrival : arrival? call result <;> simp [harrival]

/-- A number that has left once has left by one call. -/
theorem position_unique {i j : Nat} {e e' : Entry α} (h : L.gone.Nodup)
    (hi : L.entries[i]? = some e) (hn : n ∈ e.gone) (hj : L.entries[j]? = some e')
    (hn' : n ∈ e'.gone) : i = j := by
  obtain ⟨hilt, rfl⟩ := List.getElem?_eq_some_iff.1 hi
  obtain ⟨hjlt, rfl⟩ := List.getElem?_eq_some_iff.1 hj
  have hapart := List.pairwise_iff_getElem.1 (List.nodup_flatMap.1 h).2
  rcases Nat.lt_trichotomy i j with hlt | heq | hgt
  · exact absurd hn' (hapart i j hilt hjlt hlt hn)
  · exact heq
  · exact absurd hn (hapart j i hjlt hilt hgt hn')

/-- A number is in the queue or has left by one call. -/
theorem Balances.existsUnique_place (h : L.Balances q) (hone : 1 ≤ n) (hle : n ≤ L.put.length) :
    ∃! place, L.Holds n place := by
  have hnodup : (L.gone ++ L.buffered).Nodup := h.once.nodup_iff.2 List.nodup_range'
  have hmem : n ∈ L.gone ++ L.buffered := h.once.mem_iff.2 (by rw [List.mem_range'_1]; omega)
  have happart : ∀ {e}, e ∈ L.entries → n ∈ e.gone → n ∉ L.buffered := fun he hn ↦
    List.disjoint_of_nodup_append hnodup (List.mem_flatMap.2 ⟨_, he, hn⟩)
  rcases List.mem_append.1 hmem with hgone | hbuffered
  · obtain ⟨e, he, hn⟩ := List.mem_flatMap.1 hgone
    obtain ⟨i, hi⟩ := List.mem_iff_getElem?.1 he
    refine ⟨.left i e.way, ⟨e, hi, rfl, hn⟩, ?_⟩
    rintro (_ | ⟨j, way⟩) hholds
    · exact absurd hholds (happart he hn)
    · obtain ⟨e', hj, rfl, hn'⟩ := hholds
      obtain rfl : j = i := position_unique hnodup.of_append_left hj hn' hi hn
      obtain rfl : e = e' := Option.some.inj (hi.symm.trans hj)
      rfl
  · refine ⟨.buffered, hbuffered, ?_⟩
    rintro (_ | ⟨j, way⟩) hholds
    · rfl
    · obtain ⟨e, hj, -, hn⟩ := hholds
      exact absurd hbuffered (happart (List.mem_of_getElem? hj) hn)

/-- The items handed out are those in the answers, in this order. -/
theorem Balances.map_delivered (h : L.Balances q) :
    L.delivered.map L.item? =
      (L.entries.filterMap fun e ↦ delivered? e.call e.result).map some := by
  have htold := h.told
  rw [delivered]
  generalize L.entries = entries at htold
  induction entries with
  | nil => rfl
  | cons e entries ih =>
    have hlater := ih fun e' he' ↦ htold e' (List.mem_cons_of_mem e he')
    obtain ⟨items, hitems, htells⟩ := htold e List.mem_cons_self
    -- Only a delivery counts on either side.
    by_cases hway : e.way = .delivery
    · rw [List.filter_cons_of_pos (by simpa using hway), List.flatMap_cons, List.map_append, hlater,
        hitems, htells.eq_delivered? hway]
      cases hdelivered : delivered? e.call e.result <;> simp [hdelivered]
    · have hnone : delivered? e.call e.result = none := Result.Tells.delivered?_eq_none hway
      rw [List.filter_cons_of_neg (by simpa using hway), hlater, List.filterMap_cons, hnone]

/-- As many items have left as the answers tell. -/
theorem Balances.length_gone (h : L.Balances q) :
    L.gone.length = (L.entries.filterMap fun e ↦ delivered? e.call e.result).length +
      (L.entries.map fun e ↦ removed e.call e.result).sum +
      (L.entries.map fun e ↦ cleared e.call e.result).sum +
      (L.entries.map fun e ↦ discarded e.call e.result).sum := by
  have htold := h.told
  rw [gone]
  generalize L.entries = entries at htold
  induction entries with
  | nil => rfl
  | cons e entries ih =>
    have hlater := ih fun e' he' ↦ htold e' (List.mem_cons_of_mem e he')
    obtain ⟨items, hitems, htells⟩ := htold e List.mem_cons_self
    have hlength : e.gone.length = items.length := by
      simpa using congrArg List.length hitems
    have hfirst : ((e :: entries).filterMap fun e ↦ delivered? e.call e.result).length =
        (delivered? e.call e.result).toList.length +
          (entries.filterMap fun e ↦ delivered? e.call e.result).length := by
      cases hdelivered : delivered? e.call e.result <;> simp [hdelivered, Nat.add_comm]
    rw [List.flatMap_cons, List.length_append, hlater, hlength, htells.length_eq, hfirst]
    simp only [List.map_cons, List.sum_cons]
    omega

/-- Items are conserved by calls that have led a new queue to another. -/
structure Conserved (calls : List (Call α × Result α)) (q : Queue α) : Prop where
  /-- The numbers are given in the order in which items are put. -/
  put : (ofCalls calls).put = calls.filterMap fun (call, result) ↦ arrival? call result
  /-- The calls of the ledger are these. -/
  calls_eq : (ofCalls calls).entries.map (fun e ↦ (e.call, e.result)) = calls
  /-- The numbers in the queue stand for its items. -/
  buffered : (ofCalls calls).buffered.map (ofCalls calls).item? = q.items.map some
  /-- They increase from head to tail. -/
  buffered_increasing : (ofCalls calls).buffered.Pairwise (· < ·)
  /-- Each number is at one place: it is in the queue, or has left by one call in one way. -/
  place : ∀ n, 1 ≤ n → n ≤ (ofCalls calls).put.length → ∃! place, (ofCalls calls).Holds n place
  /-- The answer to a call tells what has left by it. -/
  told : ∀ e ∈ (ofCalls calls).entries,
    ∃ items, e.gone.map (ofCalls calls).item? = items.map some ∧ e.result.Tells e.call items
  /-- The numbers handed out stand for the items in the answers. -/
  delivered : (ofCalls calls).delivered.map (ofCalls calls).item? =
    (calls.filterMap fun (call, result) ↦ delivered? call result).map some
  /-- They increase in the order of the calls. -/
  delivered_increasing : (ofCalls calls).delivered.Pairwise (· < ·)
  /-- The queue is closed once at most. -/
  closings : (calls.filter fun (call, result) ↦ departure call result = .closing).length ≤ 1
  /-- The items put are those handed out, removed, cleared, discarded, and still there. -/
  total : (ofCalls calls).put.length =
    (calls.filterMap fun (call, result) ↦ delivered? call result).length +
      (calls.map fun (call, result) ↦ removed call result).sum +
      (calls.map fun (call, result) ↦ cleared call result).sum +
      (calls.map fun (call, result) ↦ discarded call result).sum + q.length

/-- A queue is closed by one call, unless it is open. -/
theorem length_closings [Item α] {calls : List (Call α × Result α)}
    (h : Queue.Runs Queue.Effect .empty calls q) :
    (calls.filter fun (call, result) ↦ departure call result = .closing).length =
      q.closed.toNat := by
  induction h with
  | nil => rfl
  | snoc _ last ih =>
    rw [List.filter_append, List.length_append, ih]
    rcases last.closing with ⟨hway, hopen, hclosed⟩ | ⟨hway, hsame⟩
    · simp [hway, hopen, hclosed]
    · simp [hway, hsame]

/-- **Items are conserved by every run.** -/
theorem conserved_of_runs [Item α] {calls : List (Call α × Result α)}
    (h : Queue.Runs Queue.Effect .empty calls q) : Conserved calls q := by
  have hbalances := balances_of_runs h
  have hcalls := calls_ofCalls calls
  obtain ⟨-, hbuffered, -⟩ := List.pairwise_append.1 hbalances.increasing
  obtain ⟨hdelivered, -, -⟩ := List.pairwise_append.1 hbalances.increasing
  refine ⟨put_ofCalls calls, hcalls, hbalances.items, hbuffered,
    fun n ↦ hbalances.existsUnique_place, hbalances.told, ?_, hdelivered, ?_, ?_⟩
  · rw [hbalances.map_delivered]
    conv_rhs => rw [← hcalls, List.filterMap_map]
    rfl
  · rw [length_closings h]
    exact Bool.toNat_le _
  · have hput := hbalances.once.length_eq
    have hitems := congrArg List.length hbalances.items
    rw [List.length_append, List.length_range', hbalances.length_gone] at hput
    rw [List.length_map, List.length_map] at hitems
    conv_rhs => rw [← hcalls]
    rw [← hput, hitems, List.filterMap_map, List.map_map, List.map_map, List.map_map]
    rfl

end Ledger

end QueueJournal
