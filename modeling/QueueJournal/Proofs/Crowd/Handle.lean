import QueueJournal.Proofs.Crowd.Basic
import QueueJournal.Proofs.Queue.Position

/-!
# An index is a handle

A thread that puts an item is answered with the index of the item. Other threads go on meanwhile,
so the item may have moved by the time the thread returns; but the index still says where it is. As
long as the item is in the queue, it stands at its index less the items ahead of it that have left
since (`IsHandle.place`). Only those move it (`IsHandle.moves`), and it is handed out once they all
have left (`IsHandle.handedOut`).

The items are told apart by the numbers that the ledger of the calls done gives them.
-/

namespace QueueJournal

/-- What has been asked and answered. -/
def Deed.deal {α : Type} (deed : Deed α) : Call α × Result α :=
  (deed.call, deed.result)

/-- How items have left by a call that is done. -/
def Deed.way {α : Type} (deed : Deed α) : Departure :=
  departure deed.call deed.result

namespace Crowd

variable {α : Type} {c c₁ c' : Crowd α} {deed : Deed α} {later : List (Deed α)} {a : α}
  {i n p : Nat}

/-- The ledger of the calls done, in the order in which they ended under the lock. -/
def ledger (c : Crowd α) : Ledger α :=
  .ofCalls c.dealings

theorem ledger_of_deeds (h : c'.deeds = c.deeds ++ later) :
    c'.ledger = c.ledger.postAll (later.map Deed.deal) := by
  rw [ledger, dealings, h, List.map_append, Ledger.ofCalls_append]
  rfl

theorem ledger_of_deed (h : c'.deeds = c.deeds ++ [deed]) :
    c'.ledger = c.ledger.post deed.call deed.result :=
  ledger_of_deeds h

variable [Item α]

theorem balances_of_reachable (h : Reachable c) : c.ledger.Balances c.queue :=
  Ledger.balances_of_runs (runs_of_reachable h)

/-- Calls that end later lead the queue to where it is then. -/
theorem exists_runs_of_leads (h : Leads c c') : ∃ later, c'.deeds = c.deeds ++ later ∧
    Queue.Runs Queue.Effect c.queue (later.map Deed.deal) c'.queue := by
  induction h with
  | refl => exact ⟨[], (List.append_nil _).symm, .nil⟩
  | tail _ hstep ih =>
    obtain ⟨later, hdeeds, hruns⟩ := ih
    rcases hstep.ends with ⟨hqueue, -, hsame⟩ | ⟨deed, hends⟩
    · exact ⟨later, hsame.trans hdeeds, hqueue ▸ hruns⟩
    · refine ⟨later ++ [deed], by rw [hends.deeds, hdeeds, List.append_assoc], ?_⟩
      rw [List.map_append]
      exact hruns.snoc hends.effect

/-! ### The item that was put -/

/-- The number of the next item that is put. -/
def nextNumber (c : Crowd α) : Nat :=
  c.ledger.put.length + 1

/-- How many of the items ahead of the next that is put have left until later. -/
def leftAhead (c c' : Crowd α) : Nat :=
  c.ledger.buffered.countP (· ∈ c'.ledger.takenSince (c.ledger.entries.length + 1))

/-- What the index of an item says later on, if the item is the next that is put. -/
structure IsHandle (c : Crowd α) (a : α) (i : Nat) (c' : Crowd α) : Prop where
  /-- So many items stand ahead of it. -/
  ahead : c.ledger.buffered.length = i
  /-- As long as it is in the queue, it stands at the index less the items ahead of it that have
  left since. -/
  place : ∀ p, c'.ledger.At c.nextNumber p →
    c'.queue.items[p]? = some a ∧ p + c.leftAhead c' = i
  /-- A step leaves it where it is, or ends a call that moves it by what leaves ahead of it. -/
  moves : ∀ p c'', c'.ledger.At c.nextNumber p → Step c' c'' → c''.ledger = c'.ledger ∨
    ∃ deed, c''.deeds = c'.deeds ++ [deed] ∧
      ∀ p', c''.ledger.At c.nextNumber p' ↔ deed.way.carry p = some p'
  /-- A call hands it out if and only if the call hands out an item and all items ahead of it have
  left. -/
  handedOut : ∀ p c'' deed, c'.ledger.At c.nextNumber p → Step c' c'' →
    c''.deeds = c'.deeds ++ [deed] →
      (c.nextNumber ∈ c''.ledger.delivered ↔ deed.way = .delivery ∧ c.leftAhead c' = i) ∧
      (c.nextNumber ∈ c''.ledger.delivered → deed.result = .item (some a))

/-- An item is put behind all others. -/
theorem ledger_of_put (hput : c.Ends deed c₁) (hcall : deed.call = .enqueue a)
    (hresult : deed.result = .index (some i)) :
    c₁.ledger = c.ledger.post (.enqueue a) (.index (some i)) := by
  rw [ledger_of_deed hput.deeds, hcall, hresult]

theorem length_buffered (h : Reachable c) : c.ledger.buffered.length = c.queue.items.length := by
  simpa using congrArg List.length (balances_of_reachable h).items

/-- An item is given the number of those ahead of it for an index. -/
theorem Ends.index_eq (hput : c.Ends deed c₁) (hcall : deed.call = .enqueue a)
    (hresult : deed.result = .index (some i)) : i = c.queue.items.length := by
  have heffect := hput.effect
  rw [hcall, hresult] at heffect
  generalize c₁.queue = q' at heffect
  cases heffect with
  | accepts => rfl
  | reads answer => simp [Queue.read?] at answer

/-- As long as the item that was put is in the queue, it stands at its index less the items ahead of
it that have left since. -/
theorem place_of_put (h : Reachable c) (hput : c.Ends deed c₁) (hcall : deed.call = .enqueue a)
    (hresult : deed.result = .index (some i)) (h₁ : Reachable c₁) (hleads : Leads c₁ c')
    (hat : c'.ledger.At c.nextNumber p) :
    c'.queue.items[p]? = some a ∧ p + c.leftAhead c' = i := by
  have hledger := ledger_of_put hput hcall hresult
  have hahead : c.ledger.buffered.length = i :=
    (length_buffered h).trans (hput.index_eq hcall hresult).symm
  have hbuffered : c₁.ledger.buffered = c.ledger.buffered ++ [c.nextNumber] := by
    rw [hledger]
    rfl
  have hat₁ : c₁.ledger.At c.nextNumber i := by
    rw [hledger, ← hahead]
    exact Ledger.at_post_enqueue ..
  have hitem : c₁.ledger.item? c.nextNumber = some a := by
    rw [hledger]
    simp [nextNumber, Ledger.item?, Ledger.post, arrival?]
  have hentries : c₁.ledger.entries.length = c.ledger.entries.length + 1 := by
    rw [hledger, Ledger.post, List.length_append, List.length_singleton]
  obtain ⟨later, hdeeds, -⟩ := exists_runs_of_leads hleads
  have hlater := ledger_of_deeds hdeeds
  have hbalances := balances_of_reachable (h₁.trans hleads)
  refine ⟨?_, ?_⟩
  · rw [← hbalances.item?_eq hat, hlater]
    exact Ledger.item?_postAll hitem
  · rw [hlater] at hat hbalances
    have hleft := (balances_of_reachable h₁).place hbalances hat₁ hat
    rwa [← hlater, hbuffered, List.take_left' hahead, hentries] at hleft

/-- A step leaves an item where it is, or ends a call that moves it. -/
theorem Step.moves (hstep : Step c c') (h : Reachable c) (hat : c.ledger.At n p) :
    c'.ledger = c.ledger ∨ ∃ deed, c'.deeds = c.deeds ++ [deed] ∧
      ∀ p', c'.ledger.At n p' ↔ deed.way.carry p = some p' := by
  rcases hstep.ends with ⟨-, -, hsame⟩ | ⟨deed, hends⟩
  · exact .inl (by rw [ledger, dealings, hsame, ← dealings, ← ledger])
  · refine .inr ⟨deed, hends.deeds, fun p' ↦ ?_⟩
    rw [ledger_of_deed hends.deeds]
    exact (balances_of_reachable h).at_post_iff hat

/-- A call that hands out an item hands out the one at the head. -/
theorem Step.result_of_delivery (hstep : Step c c') (hdeeds : c'.deeds = c.deeds ++ [deed])
    (hway : deed.way = .delivery) (hhead : c.queue.items[0]? = some a) :
    deed.result = .item (some a) := by
  have htells := (hstep.ends_of_deeds hdeeds).effect.tells
  rw [Deed.way] at hway
  rw [Result.Tells, hway] at htells
  obtain ⟨b, hresult, hgone⟩ := htells
  change c.queue.items.take 1 = [b] at hgone
  rw [hresult]
  cases hitems : c.queue.items with
  | nil => simp [hitems] at hhead
  | cons first others => simp_all

/-- **The index of an item is a handle**, whatever threads do later. -/
theorem isHandle_of_put (h : Reachable c) (hput : c.Ends deed c₁) (hcall : deed.call = .enqueue a)
    (hresult : deed.result = .index (some i)) (h₁ : Reachable c₁) (hleads : Leads c₁ c') :
    IsHandle c a i c' where
  ahead := (length_buffered h).trans (hput.index_eq hcall hresult).symm
  place _ := place_of_put h hput hcall hresult h₁ hleads
  moves _ _ hat hstep := hstep.moves (h₁.trans hleads) hat
  handedOut p c'' deed' hat hstep hdeeds := by
    obtain ⟨hhead, hleft⟩ := place_of_put h hput hcall hresult h₁ hleads hat
    have hiff : c.nextNumber ∈ c''.ledger.delivered ↔ deed'.way = .delivery ∧ p = 0 := by
      rw [ledger_of_deed hdeeds]
      exact (balances_of_reachable (h₁.trans hleads)).mem_delivered_post_iff hat
    have hzero : p = 0 ↔ c.leftAhead c' = i := by omega
    refine ⟨by rw [hiff, hzero], fun hmem ↦ ?_⟩
    obtain ⟨hway, rfl⟩ := hiff.1 hmem
    exact hstep.result_of_delivery hdeeds hway hhead

/-- **An index is a handle.** The item that a call has put stands at the index that the call is
answered with, and whatever threads do later, it stands there less the items ahead of it that have
left, as long as it is in the queue. While nothing leaves, the calls that put items are answered
with consecutive indices. -/
theorem index_is_handle (h : Reachable c) :
    (∀ c₁ deed a i, Step c c₁ → c₁.deeds = c.deeds ++ [deed] → deed.call = .enqueue a →
      deed.result = .index (some i) →
        c₁.ledger.At c.nextNumber i ∧ ∀ c', Leads c₁ c' → IsHandle c a i c') ∧
      (c.queue.closed = false → ∀ c' later, Leads c c' → c'.deeds = c.deeds ++ later →
        (∀ deed ∈ later, deed.way = .nothing) →
          later.filterMap (fun deed ↦ indexGiven? deed.call deed.result) =
            List.range' c.queue.length (later.countP fun deed ↦ deed.call.puts)) := by
  refine ⟨fun c₁ deed a i hstep hdeeds hcall hresult ↦ ?_,
    fun isOpen c' later hleads hdeeds hway ↦ ?_⟩
  · have hput := hstep.ends_of_deeds hdeeds
    refine ⟨?_, fun c' ↦ isHandle_of_put h hput hcall hresult (h.step hstep)⟩
    rw [ledger_of_put hput hcall hresult, hput.index_eq hcall hresult, ← length_buffered h]
    exact Ledger.at_post_enqueue ..
  · obtain ⟨later', hdeeds', hruns⟩ := exists_runs_of_leads hleads
    obtain rfl := List.append_cancel_left (hdeeds'.symm.trans hdeeds)
    obtain ⟨-, -, hindices⟩ := Queue.indices_of_runs hruns isOpen (List.forall_mem_map.2 hway)
    rwa [List.filterMap_map, List.countP_map] at hindices

/-- An item is put behind two others, and two more are put behind it. Then one ahead of it and one
behind it are removed, and a thread that has slept is given the other one ahead of it. -/
theorem index_is_handle_overtaken :
    ∃ (c c₁ c₂ c' : Crowd String) (deed : Deed String) (later : List (Deed String)),
      Reachable c ∧ Step c c₁ ∧ c₁.deeds = c.deeds ++ [deed] ∧ deed.call = .enqueue "c" ∧
        deed.result = .index (some 2) ∧ Leads c₁ c' ∧ c'.queue.items = ["c", "e"] ∧
        c'.ledger.At c.nextNumber 0 ∧ c.leftAhead c' = 2 ∧ IsHandle c "c" 2 c' ∧
      Reachable c₁ ∧ Leads c₁ c₂ ∧ c₁.queue.closed = false ∧ c₂.deeds = c₁.deeds ++ later ∧
        (∀ deed ∈ later, deed.way = .nothing) ∧
        later.filterMap (fun deed ↦ indexGiven? deed.call deed.result) = [3, 4] := by
  have h := (reachable_empty : Reachable (empty : Crowd String))
    |>.step (.make 0 .dequeue rfl) |>.step (.enter 0 0 rfl)
    |>.step (.make 1 (.enqueue "a") rfl) |>.step (.enter 1 0 rfl)
    |>.step (.make 2 (.enqueue "b") rfl) |>.step (.enter 2 0 rfl)
    |>.step (.make 3 (.enqueue "c") rfl)
  have h₁ := h.step (.enter 3 0 rfl)
  have hstays : ∀ {c : Crowd String}, Reachable c → Leads c c := fun _ ↦ .refl
  have hputs := hstays h₁
    |>.tail (.make 4 (.enqueue "d") rfl) |>.tail (.make 5 (.enqueue "e") rfl)
    |>.tail (.enter 4 0 rfl) |>.tail (.enter 5 0 rfl)
  have hleads := hputs
    |>.tail (.make 6 (.removeAt 0) rfl) |>.tail (.enter 6 0 rfl)
    |>.tail (.make 7 (.tryRemoveAt 2) rfl) |>.tail (.enter 7 0 rfl)
    |>.tail (.resume 0 rfl (by decide))
  have hhandle := (index_is_handle h).1 _ ⟨3, 3, .enqueue "c", .index (some 2)⟩ "c" 2
    (.enter 3 0 rfl) rfl rfl rfl
  have hindices := (index_is_handle h₁).2 rfl _
    [⟨4, 4, .enqueue "d", .index (some 3)⟩, ⟨5, 5, .enqueue "e", .index (some 4)⟩] hputs rfl
    (by decide)
  exact ⟨_, _, _, _, _, _, h, .enter 3 0 rfl, rfl, rfl, rfl, hleads, rfl, rfl, rfl,
    hhandle.2 _ hleads, h₁, hputs, rfl, rfl, by decide, hindices⟩

end Crowd

end QueueJournal
