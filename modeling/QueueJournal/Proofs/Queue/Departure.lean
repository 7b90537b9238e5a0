import Mathlib.Data.List.Perm.Basic
import QueueJournal.Proofs.Queue.Effect

/-!
# What arrives and what leaves

What a call moves can be read off from what was asked and what was answered: the item that arrives
at the tail (`arrival?`), and how items leave (`departure`). A `Departure` acts on any list beside
the items, so that what is known of the items can be kept in such a list.

Every effect moves just that (`Queue.Effect.items_eq`), and its result tells what has left
(`Queue.Effect.tells`).
-/

namespace QueueJournal

/-- How items leave a queue. -/
inductive Departure where
  /-- No item leaves. -/
  | nothing
  /-- The item at the head is handed out. -/
  | delivery
  /-- The item at an index is removed. -/
  | removal (index : Nat)
  /-- All items are removed. -/
  | clearing
  /-- All items are discarded, since the queue is closed. -/
  | closing
  deriving DecidableEq

namespace Departure

variable {β γ : Type} (way : Departure) (l : List β)

/-- What leaves a list. -/
def gone : Departure → List β → List β
  | nothing, _ => []
  | delivery, l => l.take 1
  | removal index, l => l[index]?.toList
  | clearing, l => l
  | closing, l => l

/-- What is left of a list. -/
def rest : Departure → List β → List β
  | nothing, l => l
  | delivery, l => l.drop 1
  | removal index, l => l.eraseIdx index
  | clearing, _ => []
  | closing, _ => []

theorem map_gone (f : β → γ) : (way.gone l).map f = way.gone (l.map f) := by
  cases way with
  | removal index =>
    rw [gone, gone, List.getElem?_map]
    cases l[index]? <;> rfl
  | _ => simp [gone]

theorem map_rest (f : β → γ) : (way.rest l).map f = way.rest (l.map f) := by
  cases way with
  | removal index =>
    simp only [rest]
    induction l generalizing index with
    | nil => rfl
    | cons b l ih => cases index <;> simp [ih]
  | _ => simp [rest]

theorem rest_sublist : (way.rest l).Sublist l := by
  cases way with
  | nothing => exact .refl l
  | delivery => exact List.drop_sublist 1 l
  | removal index => exact List.eraseIdx_sublist l index
  | _ => exact List.nil_sublist l

/-- Each entry of a list leaves or is left. -/
theorem gone_append_rest_perm : (way.gone l ++ way.rest l).Perm l := by
  cases way with
  | nothing => exact .rfl
  | delivery => rw [gone, rest, List.take_append_drop]
  | removal index =>
    rw [gone, rest]
    by_cases hlt : index < l.length
    · rw [List.getElem?_eq_getElem hlt]
      exact List.getElem_cons_eraseIdx_perm hlt
    · rw [Nat.not_lt] at hlt
      rw [List.getElem?_eq_none hlt, List.eraseIdx_of_length_le hlt]
      exact .rfl
  | _ => simp [gone, rest]

end Departure

variable {α : Type}

/-- The item that a call has put. -/
def arrival? : Call α → Result α → Option α
  | .enqueue a, .index (some _) => some a
  | _, _ => none

/-- How items have left by a call. -/
def departure : Call α → Result α → Departure
  | .dequeue, .item (some _) => .delivery
  | .tryDequeue, .item (some _) => .delivery
  | .removeAt index, .removal (.ok _) => .removal index
  | .tryRemoveAt index, .remaining (some _) => .removal index
  | .clear, .count _ => .clearing
  | .close, .closed (some _) => .closing
  | _, _ => .nothing

/-- The item that a call has handed out. -/
def delivered? (call : Call α) (result : Result α) : Option α :=
  match departure call result, result with
  | .delivery, .item item => item
  | _, _ => none

/-- How many items a call has removed at an index. -/
def removed (call : Call α) (result : Result α) : Nat :=
  match departure call result with
  | .removal _ => 1
  | _ => 0

/-- How many items a call has cleared, as it was answered. -/
def cleared (call : Call α) (result : Result α) : Nat :=
  match departure call result, result with
  | .clearing, .count n => n
  | _, _ => 0

/-- How many items a call has discarded by closing the queue, as it was answered. -/
def discarded (call : Call α) (result : Result α) : Nat :=
  match departure call result, result with
  | .closing, .closed (some n) => n
  | _, _ => 0

/-- What a result tells of the items that have left. -/
def Result.Tells (call : Call α) (result : Result α) (items : List α) : Prop :=
  match departure call result with
  | .nothing => items = []
  | .delivery => ∃ a, result = .item (some a) ∧ items = [a]
  | .removal _ => items.length = 1
  | .clearing => result = .count items.length
  | .closing => result = .closed (some items.length)

namespace Result.Tells

variable {call : Call α} {result : Result α} {items : List α}

theorem delivered?_eq_none (hway : departure call result ≠ .delivery) :
    delivered? call result = none := by
  cases h : departure call result <;> simp_all [delivered?]

/-- An item that is handed out is the one in the answer. -/
theorem eq_delivered? (h : result.Tells call items) (hway : departure call result = .delivery) :
    items = (delivered? call result).toList := by
  rw [Tells, hway] at h
  obtain ⟨a, rfl, rfl⟩ := h
  simp [delivered?, hway]

/-- As many items have left as the answer tells. -/
theorem length_eq (h : result.Tells call items) :
    items.length = (delivered? call result).toList.length + removed call result +
      cleared call result + discarded call result := by
  rw [Tells] at h
  cases hway : departure call result with
  | delivery =>
    rw [hway] at h
    obtain ⟨a, rfl, rfl⟩ := h
    simp [delivered?, removed, cleared, discarded, hway]
  | _ => simp_all [delivered?, removed, cleared, discarded]

end Result.Tells

/-! ### What the effects move -/

namespace Queue

variable {q q' : Queue α} {call : Call α} {result : Result α}

theorem departure_gives (taking : call.Takes) (a : α) :
    departure call (.item (some a)) = .delivery ∧ arrival? call (.item (some a)) = none := by
  rcases taking with rfl | rfl <;> exact ⟨rfl, rfl⟩

theorem departure_lacks (taking : call.Takes) :
    departure call (.item none) = .nothing ∧ arrival? call (.item none) = none := by
  rcases taking with rfl | rfl <;> exact ⟨rfl, rfl⟩

variable [Item α]

/-- A call that looks at the queue moves nothing. -/
theorem departure_reads (answer : q.read? call = some result) :
    departure call result = .nothing ∧ arrival? call result = none := by
  cases call <;> first | exact ⟨rfl, rfl⟩ | simp [read?] at answer

/-- What leaves and what arrives makes the new items from the old ones. -/
theorem Effect.items_eq (h : Effect q call result q') :
    q'.items = (departure call result).rest q.items ++ (arrival? call result).toList := by
  cases h with
  | gives taking isOpen head =>
    obtain ⟨hway, hput⟩ := departure_gives taking _
    rw [hway, hput, head]
    simp [Departure.rest]
  | lacks taking =>
    obtain ⟨hway, hput⟩ := departure_lacks taking
    rw [hway, hput]
    simp [Departure.rest]
  | reads answer =>
    obtain ⟨hway, hput⟩ := departure_reads answer
    rw [hway, hput]
    simp [Departure.rest]
  | _ => simp [departure, arrival?, Departure.rest]

/-- The result tells what has left. -/
theorem Effect.tells (h : Effect q call result q') :
    result.Tells call ((departure call result).gone q.items) := by
  rw [Result.Tells]
  cases h with
  | gives taking isOpen head =>
    rw [(departure_gives taking _).1, head]
    exact ⟨_, rfl, rfl⟩
  | lacks taking => rw [(departure_lacks taking).1]; rfl
  | reads answer => rw [(departure_reads answer).1]; rfl
  | removes inRange => simp [departure, Departure.gone, inRange]
  | triesRemoving inRange => simp [departure, Departure.gone, inRange]
  | _ => simp [departure, Departure.gone]

/-- Only a closing closes a queue, and it does so but once. -/
theorem Effect.closing (h : Effect q call result q') :
    (departure call result = .closing ∧ q.closed = false ∧ q'.closed = true) ∨
      (departure call result ≠ .closing ∧ q'.closed = q.closed) := by
  cases h with
  | closes isOpen => exact .inl ⟨rfl, isOpen, rfl⟩
  | gives taking => exact .inr ⟨by simp [(departure_gives taking _).1], rfl⟩
  | lacks taking => exact .inr ⟨by simp [(departure_lacks taking).1], rfl⟩
  | reads answer => exact .inr ⟨by simp [(departure_reads answer).1], rfl⟩
  | accepts a isOpen => exact .inr ⟨by simp [departure], isOpen.symm⟩
  | _ => exact .inr ⟨by simp [departure], rfl⟩

end Queue

end QueueJournal
