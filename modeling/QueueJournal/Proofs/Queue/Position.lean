import QueueJournal.Proofs.Queue.Ledger

/-!
# Where an item stands

An item that is put is given an index: as many items stand ahead of it. What a call does to the
place of an item in the queue depends on how items leave by it, and on nothing else
(`Departure.carry`, `Ledger.Balances.at_post_iff`). Over a run, an item that is still in the queue
stands where it stood less the items ahead of it that have left, each of which was handed out or
removed at an index (`Ledger.Balances.place`).

While nothing leaves, the indices that items are given are consecutive (`Queue.indices_of_runs`).
-/

namespace QueueJournal

namespace Departure

variable {β : Type} {way : Departure} {l : List β} {b : β} {p p' : Nat}

/-- Where the entry at a position stands afterwards, unless it leaves itself. -/
def carry : Departure → Nat → Option Nat
  | nothing, p => some p
  | delivery, 0 => none
  | delivery, p + 1 => some p
  | removal index, p => if p < index then some p else if p = index then none else some (p - 1)
  | clearing, _ => none
  | closing, _ => none

/-- Whether it is a single item that leaves. -/
def isSingle : Departure → Bool
  | delivery => true
  | removal _ => true
  | _ => false

theorem getElem?_eq_some_iff_of_nodup (hnodup : l.Nodup) (h : l[p]? = some b) :
    l[p']? = some b ↔ p = p' := by
  obtain ⟨hlt, -⟩ := List.getElem?_eq_some_iff.1 h
  rw [← h, eq_comm]
  exact List.getElem?_inj hlt hnodup

/-- **What a departure does to the place of an entry.** -/
theorem getElem?_rest_iff (hnodup : l.Nodup) (h : l[p]? = some b) :
    (way.rest l)[p']? = some b ↔ way.carry p = some p' := by
  have hplace : ∀ k, l[k]? = some b ↔ p = k := fun k ↦ getElem?_eq_some_iff_of_nodup hnodup h
  cases way with
  | nothing => rw [rest, carry, hplace, Option.some.injEq]
  | delivery =>
    rw [rest, List.getElem?_drop, hplace]
    cases p with
    | zero => simp only [carry, reduceCtorEq, iff_false]; omega
    | succ p => simp only [carry, Option.some.injEq]; omega
  | removal index =>
    rw [rest, carry, List.getElem?_eraseIdx]
    split_ifs <;> rw [hplace] <;> simp <;> omega
  | clearing => simp [rest, carry]
  | closing => simp [rest, carry]

end Departure

namespace Ledger

variable {α : Type} {L : Ledger α} {q q' : Queue α} {call : Call α} {result : Result α}
  {calls : List (Call α × Result α)} {n m p p' : Nat}

/-- The item with a number stands at a position of the queue. -/
def At (L : Ledger α) (n p : Nat) : Prop :=
  L.buffered[p]? = some n

/-- The numbers of the items that have left one at a time, handed out or removed at an index, by the
calls behind the first few. -/
def takenSince (L : Ledger α) (k : Nat) : List Nat :=
  ((L.entries.drop k).filter fun e ↦ e.way.isSingle).flatMap Entry.gone

/-- Enter calls that have been answered, one after the other. -/
def postAll (L : Ledger α) (calls : List (Call α × Result α)) : Ledger α :=
  calls.foldl (fun L (call, result) ↦ L.post call result) L

theorem postAll_concat (L : Ledger α) (calls : List (Call α × Result α)) (call : Call α)
    (result : Result α) :
    L.postAll (calls ++ [(call, result)]) = (L.postAll calls).post call result :=
  List.foldl_concat ..

theorem ofCalls_append (calls more : List (Call α × Result α)) :
    ofCalls (calls ++ more) = (ofCalls calls).postAll more :=
  List.foldl_append

theorem Balances.nodup_buffered (h : L.Balances q) : L.buffered.Nodup :=
  (List.pairwise_append.1 h.increasing).2.1.imp Nat.ne_of_lt

theorem At.mem (h : L.At n p) : n ∈ L.buffered :=
  List.mem_of_getElem? h

theorem Balances.notMem_gone (h : L.Balances q) (hmem : n ∈ L.buffered) : n ∉ L.gone :=
  fun hgone ↦ List.disjoint_of_nodup_append (h.once.nodup_iff.2 List.nodup_range') hgone hmem

/-- The item at a position is the one in the queue there. -/
theorem Balances.item?_eq (h : L.Balances q) (hat : L.At n p) : L.item? n = q.items[p]? := by
  have hitems : (L.buffered.map L.item?)[p]? = (q.items.map some)[p]? := by rw [h.items]
  rw [List.getElem?_map, List.getElem?_map, show L.buffered[p]? = some n from hat] at hitems
  cases hitem : q.items[p]? <;> simp_all

/-! ### One call -/

/-- **What a call does to the place of an item.** -/
theorem Balances.at_post_iff (h : L.Balances q) (hat : L.At n p) :
    (L.post call result).At n p' ↔ (departure call result).carry p = some p' := by
  have hle : n ≤ L.put.length := h.le_length (List.mem_append_right _ hat.mem)
  rw [← Departure.getElem?_rest_iff h.nodup_buffered hat, At, Ledger.post]
  constructor
  · intro hnew
    rw [List.getElem?_append] at hnew
    split at hnew
    · exact hnew
    · -- The number of an item that is put by the call is greater.
      obtain ⟨a, -, rfl⟩ := List.mem_map.1 (List.mem_of_getElem? hnew)
      omega
  · intro hrest
    obtain ⟨hlt, -⟩ := List.getElem?_eq_some_iff.1 hrest
    rwa [List.getElem?_append_left hlt]

/-- An item that is put stands behind all others. -/
theorem at_post_enqueue (L : Ledger α) (a : α) (i : Nat) :
    (L.post (.enqueue a) (.index (some i))).At (L.put.length + 1) L.buffered.length := by
  simp [At, post, departure, arrival?, Departure.rest]

/-- A call hands out an item if it hands out one and the item stands at the head. -/
theorem Balances.mem_delivered_post_iff (h : L.Balances q) (hat : L.At n p) :
    n ∈ (L.post call result).delivered ↔ departure call result = .delivery ∧ p = 0 := by
  have hold : n ∉ L.delivered := fun hmem ↦ h.notMem_gone hat.mem (delivered_subset_gone hmem)
  by_cases hway : departure call result = .delivery
  · have hdelivered : (L.post call result).delivered = L.delivered ++ L.buffered.take 1 := by
      simp [delivered, Ledger.post, Entry.way, hway, Departure.gone]
    have hhead : L.buffered[0]? = some n ↔ p = 0 :=
      Departure.getElem?_eq_some_iff_of_nodup h.nodup_buffered hat
    rw [hdelivered, List.mem_append, or_iff_right hold, and_iff_right hway, ← hhead]
    cases L.buffered <;> simp [eq_comm]
  · have hdelivered : (L.post call result).delivered = L.delivered := by
      simp [delivered, Ledger.post, Entry.way, hway]
    rw [hdelivered]
    exact ⟨fun hmem ↦ absurd hmem hold, fun hboth ↦ absurd hboth.1 hway⟩

/-! ### Many calls -/

/-- The items that were put come first among those that have been put since. -/
theorem put_prefix_postAll (L : Ledger α) (calls : List (Call α × Result α)) :
    L.put <+: (L.postAll calls).put := by
  induction calls using List.reverseRecOn with
  | nil => exact List.prefix_rfl
  | append_singleton calls deal ih =>
    obtain ⟨call, result⟩ := deal
    rw [postAll_concat]
    exact ih.trans (List.prefix_append ..)

/-- So do the calls. -/
theorem entries_prefix_postAll (L : Ledger α) (calls : List (Call α × Result α)) :
    L.entries <+: (L.postAll calls).entries := by
  induction calls using List.reverseRecOn with
  | nil => exact List.prefix_rfl
  | append_singleton calls deal ih =>
    obtain ⟨call, result⟩ := deal
    rw [postAll_concat]
    exact ih.trans (List.prefix_append ..)

theorem mem_rest_of_mem_post (hle : n ≤ L.put.length)
    (hmem : n ∈ (L.post call result).buffered) :
    n ∈ (departure call result).rest L.buffered := by
  refine (List.mem_append.1 hmem).resolve_right fun hnew ↦ ?_
  obtain ⟨a, -, rfl⟩ := List.mem_map.1 hnew
  omega

/-- An item keeps its number. -/
theorem item?_postAll {a : α} (h : L.item? n = some a) : (L.postAll calls).item? n = some a := by
  induction calls using List.reverseRecOn with
  | nil => exact h
  | append_singleton calls deal ih =>
    obtain ⟨call, result⟩ := deal
    rw [postAll_concat]
    exact item?_post ih

/-- An item that is in the queue has been there since it was put. -/
theorem mem_buffered_of_postAll (hle : n ≤ L.put.length)
    (hmem : n ∈ (L.postAll calls).buffered) : n ∈ L.buffered := by
  induction calls using List.reverseRecOn with
  | nil => exact hmem
  | append_singleton calls deal ih =>
    obtain ⟨call, result⟩ := deal
    rw [postAll_concat] at hmem
    have hle' : n ≤ (L.postAll calls).put.length :=
      Nat.le_trans hle (L.put_prefix_postAll calls).length_le
    exact ih ((Departure.rest_sublist ..).subset (mem_rest_of_mem_post hle' hmem))

/-- While an item stays in the queue, others leave one at a time. -/
theorem isSingle_of_postAll (hle : n ≤ L.put.length) (hmem : n ∈ (L.postAll calls).buffered) :
    ∀ e ∈ (L.postAll calls).entries.drop L.entries.length, e.gone ≠ [] → e.way.isSingle = true := by
  induction calls using List.reverseRecOn with
  | nil => simp [postAll]
  | append_singleton calls deal ih =>
    obtain ⟨call, result⟩ := deal
    rw [postAll_concat] at hmem ⊢
    have hle' : n ≤ (L.postAll calls).put.length :=
      Nat.le_trans hle (L.put_prefix_postAll calls).length_le
    have hrest := mem_rest_of_mem_post hle' hmem
    intro e he hgone
    rw [post, List.drop_append_of_le_length (L.entries_prefix_postAll calls).length_le] at he
    rcases List.mem_append.1 he with hold | hlast
    · exact ih ((Departure.rest_sublist ..).subset hrest) e hold hgone
    · obtain rfl := List.mem_singleton.1 hlast
      rw [Entry.way]
      cases hway : departure call result <;>
        simp_all [Departure.rest, Departure.gone, Departure.isSingle]

/-- While an item stays in the queue, another that was there then is still there, or has left since
by itself. -/
theorem Balances.mem_takenSince_iff (h : L.Balances q) (h' : (L.postAll calls).Balances q')
    (hle : n ≤ L.put.length) (hmem : n ∈ (L.postAll calls).buffered) (hm : m ∈ L.buffered) :
    m ∈ (L.postAll calls).takenSince L.entries.length ↔ m ∉ (L.postAll calls).buffered := by
  constructor
  · intro htaken hm'
    obtain ⟨e, he, hgone⟩ := List.mem_flatMap.1 htaken
    have hentry : e ∈ (L.postAll calls).entries := List.mem_of_mem_drop (List.mem_of_mem_filter he)
    exact h'.notMem_gone hm' (List.mem_flatMap.2 ⟨e, hentry, hgone⟩)
  · intro hm'
    have hgiven := h.once.mem_iff.1 (List.mem_append_right _ hm)
    have hput := (L.put_prefix_postAll calls).length_le
    have hplace : m ∈ (L.postAll calls).gone ++ (L.postAll calls).buffered := by
      rw [h'.once.mem_iff, List.mem_range'_1]
      rw [List.mem_range'_1] at hgiven
      omega
    obtain ⟨e, he, hgone⟩ :=
      List.mem_flatMap.1 ((List.mem_append.1 hplace).resolve_right hm')
    obtain ⟨since, hsince⟩ := L.entries_prefix_postAll calls
    have hdrop : (L.postAll calls).entries.drop L.entries.length = since := by
      rw [← hsince, List.drop_left]
    rw [← hsince] at he
    have hlate : e ∈ (L.postAll calls).entries.drop L.entries.length := by
      rw [hdrop]
      refine (List.mem_append.1 he).resolve_left fun hearly ↦ ?_
      exact h.notMem_gone hm (List.mem_flatMap.2 ⟨e, hearly, hgone⟩)
    have hsingle := isSingle_of_postAll hle hmem e hlate (List.ne_nil_of_mem hgone)
    exact List.mem_flatMap.2 ⟨e, List.mem_filter.2 ⟨hlate, hsingle⟩, hgone⟩

/-- The items ahead of an item are those with smaller numbers. -/
theorem Balances.mem_take_iff (h : L.Balances q) (hat : L.At n p) :
    m ∈ L.buffered.take p ↔ m ∈ L.buffered ∧ m < n := by
  obtain ⟨-, hincreasing, -⟩ := List.pairwise_append.1 h.increasing
  obtain ⟨hlt, hn⟩ := List.getElem?_eq_some_iff.1 hat
  have hless := List.pairwise_iff_getElem.1 hincreasing
  rw [List.mem_take_iff_getElem, List.mem_iff_getElem]
  constructor
  · rintro ⟨k, hk, rfl⟩
    exact ⟨⟨k, by omega, rfl⟩, hn ▸ hless k p (by omega) hlt (by omega)⟩
  · rintro ⟨⟨k, hk, rfl⟩, hmn⟩
    refine ⟨k, ?_, rfl⟩
    by_contra hge
    rcases Nat.lt_or_ge p k with hpk | hkp
    · exact absurd (hless p k hlt hk hpk) (by omega)
    · obtain rfl : k = p := by omega
      omega

/-- **Where an item stands after many calls.** It stands where it stood, less the items ahead of it
that have left since one at a time. -/
theorem Balances.place (h : L.Balances q) (h' : (L.postAll calls).Balances q') (hat : L.At n p)
    (hat' : (L.postAll calls).At n p') :
    p' + (L.buffered.take p).countP (· ∈ (L.postAll calls).takenSince L.entries.length) = p := by
  have hle : n ≤ L.put.length := h.le_length (List.mem_append_right _ hat.mem)
  let stays (m : Nat) : Bool := m ∈ (L.postAll calls).buffered
  -- The items ahead of it now are those of the items ahead of it then that are still there.
  have hperm : ((L.postAll calls).buffered.take p').Perm ((L.buffered.take p).filter stays) := by
    refine (List.perm_ext_iff_of_nodup (h'.nodup_buffered.take ..)
      ((h.nodup_buffered.take ..).filter _)).2 fun m ↦ ?_
    rw [h'.mem_take_iff hat', List.mem_filter, h.mem_take_iff hat, decide_eq_true_iff]
    constructor
    · rintro ⟨hm', hlt⟩
      exact ⟨⟨mem_buffered_of_postAll (by omega) hm', hlt⟩, hm'⟩
    · rintro ⟨⟨-, hlt⟩, hm'⟩
      exact ⟨hm', hlt⟩
  have hstay : p' = (L.buffered.take p).countP stays := by
    obtain ⟨hlt, -⟩ := List.getElem?_eq_some_iff.1 hat'
    rw [List.countP_eq_length_filter, ← hperm.length_eq, List.length_take,
      Nat.min_eq_left (Nat.le_of_lt hlt)]
  have hleave : (L.buffered.take p).countP
      (· ∈ (L.postAll calls).takenSince L.entries.length) =
        (L.buffered.take p).countP (fun m ↦ decide ¬ stays m = true) := by
    refine List.countP_congr fun m hm ↦ ?_
    have hiff := h.mem_takenSince_iff h' hle hat'.mem (List.mem_of_mem_take hm)
    simpa [stays] using hiff
  have hlength : (L.buffered.take p).length = p := by
    obtain ⟨hlt, -⟩ := List.getElem?_eq_some_iff.1 hat
    rw [List.length_take, Nat.min_eq_left (Nat.le_of_lt hlt)]
  rw [hleave, hstay, ← List.length_eq_countP_add_countP stays, hlength]

end Ledger

/-! ### While nothing leaves -/

/-- Whether a call asks to put an item. -/
def Call.puts {α : Type} : Call α → Bool
  | enqueue _ => true
  | _ => false

/-- The index that a call has given an item. -/
def indexGiven? {α : Type} : Call α → Result α → Option Nat
  | .enqueue _, .index (some index) => some index
  | _, _ => none

namespace Queue

variable {α : Type} [Item α] {q q' : Queue α} {call : Call α} {result : Result α}
  {calls : List (Call α × Result α)}

/-- A call by which nothing leaves an open queue puts an item behind the others, or leaves them as
they are. -/
theorem Effect.of_departs_nothing (h : Effect q call result q') (isOpen : q.closed = false)
    (hway : departure call result = .nothing) :
    q'.closed = false ∧
      ((call.puts = true ∧ indexGiven? call result = some q.length ∧ q'.length = q.length + 1) ∨
        (call.puts = false ∧ indexGiven? call result = none ∧ q'.length = q.length)) := by
  cases h with
  | accepts a => exact ⟨rfl, .inl ⟨rfl, rfl, List.length_append⟩⟩
  | refuses a isClosed => simp [isOpen] at isClosed
  | gives taking => simp [(departure_gives taking _).1] at hway
  | lacks taking => rcases taking with rfl | rfl <;> exact ⟨isOpen, .inr ⟨rfl, rfl, rfl⟩⟩
  | removesNothing => exact ⟨isOpen, .inr ⟨rfl, rfl, rfl⟩⟩
  | triesInVain => exact ⟨isOpen, .inr ⟨rfl, rfl, rfl⟩⟩
  | staysClosed isClosed => simp [isOpen] at isClosed
  | reads answer =>
    refine ⟨isOpen, .inr ?_⟩
    cases call <;> first | exact ⟨rfl, rfl, rfl⟩ | simp [read?] at answer
  | _ => simp [departure] at hway

/-- **While nothing leaves, items are given consecutive indices.** -/
theorem indices_of_runs (hruns : Runs Effect q calls q') (isOpen : q.closed = false)
    (hway : ∀ deal ∈ calls, departure deal.1 deal.2 = .nothing) :
    q'.closed = false ∧ q'.length = q.length + calls.countP (·.1.puts) ∧
      calls.filterMap (fun (call, result) ↦ indexGiven? call result) =
        List.range' q.length (calls.countP (·.1.puts)) := by
  induction hruns with
  | nil => exact ⟨isOpen, rfl, rfl⟩
  | @snoc calls q₁ q₂ call result _ last ih =>
    obtain ⟨hcalls, hlast⟩ := List.forall_mem_append.1 hway
    obtain ⟨hopen, hlength, hindices⟩ := ih hcalls
    obtain ⟨hopen', hputs | hreads⟩ :=
      last.of_departs_nothing hopen (hlast _ (List.mem_singleton.2 rfl))
    · obtain ⟨hput, hindex, hmore⟩ := hputs
      rw [List.countP_append, List.filterMap_append, hindices]
      simp only [List.countP_singleton, hput, if_true, List.filterMap_cons, hindex,
        List.filterMap_nil]
      rw [List.range'_1_concat, hmore, hlength]
      exact ⟨hopen', rfl, rfl⟩
    · obtain ⟨hput, hindex, hsame⟩ := hreads
      rw [List.countP_append, List.filterMap_append, hindices]
      simp only [List.countP_singleton, hput, Bool.false_eq_true, if_false, List.filterMap_cons,
        hindex, List.filterMap_nil, List.append_nil]
      exact ⟨hopen', hsame.trans hlength, rfl⟩

end Queue

end QueueJournal
