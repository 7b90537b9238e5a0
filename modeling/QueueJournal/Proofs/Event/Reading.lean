import QueueJournal.Event.Reader
import QueueJournal.Proofs.Event.RoundTrip

/-!
# What is read of an event

Whatever text an event is read from, its numbers are of sixty-four bits and its item is one that has
been read (`WasRead`). Both hold of the fields read so far (`Draft.WasRead`): a draft has them when
it is empty, reading one more field keeps them, and the event that a draft becomes inherits them.
-/

namespace QueueJournal.Event

variable {α : Type} [Item α]

/-- The event is one that can be read: its numbers are of sixty-four bits, and so has its item been
read. -/
structure WasRead (e : Event α) : Prop where
  /-- The numbers are of sixty-four bits. -/
  range : e.InRange
  /-- The item has been read, and not for want of one. -/
  item : ∀ item, e.item = some item → ∃ s r, Json.readOption Item.read s = .ok (some item, r)

/-- The fields that have been read so far are such as can be read. -/
structure Draft.WasRead (d : Draft α) : Prop where
  /-- The number of the event. -/
  id : ∀ n, d.id = some n → n < UInt64.size
  /-- The item. -/
  item : ∀ item, d.item = some (some item) →
    ∃ s r, Json.readOption Item.read s = .ok (some item, r)
  /-- The position. -/
  index : ∀ n, d.index = some (some n) → n < UInt64.size
  /-- The count. -/
  size : ∀ n, d.size = some (some n) → n < UInt64.size
  /-- The time. -/
  atMicros : ∀ n, d.atMicros = some n → n < UInt64.size

theorem readNat_lt {expected : String} {n : Nat} {s r : List Char}
    (h : Json.readNat expected s = .ok (n, r)) : n < UInt64.size := by
  rw [Json.readNat] at h
  split at h
  · cases h
  · rename_i m _ hread
    obtain ⟨rfl, -⟩ := Prod.mk.inj (Except.ok.inj h)
    rw [Json.readInteger] at hread
    split at hread
    · cases hread
    · split at hread
      · split at hread
        · cases hread
        · split at hread
          · rename_i hbounds
            obtain ⟨rfl, -⟩ := Prod.mk.inj (Except.ok.inj hread)
            simp only [UInt64.size] at hbounds ⊢
            omega
          · cases hread
        · cases hread
      · cases hread

theorem readOption_readNat_lt {expected : String} {n : Nat} {s r : List Char}
    (h : Json.readOption (Json.readNat expected) s = .ok (some n, r)) : n < UInt64.size := by
  rw [Json.readOption] at h
  split at h
  · split at h <;> cases h
  · split at h
    · cases h
    · rename_i hread
      obtain ⟨hn, -⟩ := Prod.mk.inj (Except.ok.inj h)
      obtain rfl := Option.some.inj hn
      exact readNat_lt hread

theorem Draft.wasRead_empty : (Draft.empty : Draft α).WasRead where
  id := nofun
  item := nofun
  index := nofun
  size := nofun
  atMicros := nofun

/-- One more field has been read. -/
theorem Draft.WasRead.readField {field : Field} {d d' : Draft α} {s r : List Char}
    (hd : d.WasRead) (h : Event.readField field d s = .ok (d', r)) : d'.WasRead := by
  cases field
  all_goals
    simp only [Event.readField] at h
    obtain ⟨⟨value, rest⟩, hread, h⟩ := Json.bind_eq_ok h
    obtain ⟨rfl, -⟩ := Prod.mk.inj (Except.ok.inj h)
  case id =>
    exact { hd with id := fun n hn ↦ Option.some.inj hn ▸ readNat_lt hread }
  case worker => exact { hd with }
  case operation => exact { hd with }
  case item =>
    exact { hd with item := fun item hitem ↦ ⟨s, rest, Option.some.inj hitem ▸ hread⟩ }
  case index =>
    refine { hd with index := fun n hn ↦ ?_ }
    obtain rfl : value = some n := Option.some.inj hn
    exact readOption_readNat_lt hread
  case size =>
    refine { hd with size := fun n hn ↦ ?_ }
    obtain rfl : value = some n := Option.some.inj hn
    exact readOption_readNat_lt hread
  case accepted => exact { hd with }
  case atMicros =>
    exact { hd with atMicros := fun n hn ↦ Option.some.inj hn ▸ readNat_lt hread }

theorem Draft.WasRead.finish {d : Draft α} {e : Event α} (hd : d.WasRead)
    (h : d.finish = .ok e) : e.WasRead := by
  rw [Draft.finish] at h
  split at h
  case h_6 hid _ _ _ hat =>
    obtain rfl := Except.ok.inj h
    refine ⟨⟨hd.id _ hid, fun n hn ↦ ?_, fun n hn ↦ ?_, hd.atMicros _ hat⟩, fun item hitem ↦ ?_⟩
    · exact hd.index n (Option.join_eq_some_iff.1 hn)
    · exact hd.size n (Option.join_eq_some_iff.1 hn)
    · exact hd.item item (Option.join_eq_some_iff.1 hitem)
  all_goals cases h

/-- Members keep what they find. -/
theorem wasRead_of_readMembers {first : Bool} {d : Draft α} {s r : List Char} {e : Event α}
    (hd : d.WasRead) (h : readMembers first d s = .ok (e, r)) : e.WasRead := by
  fun_induction readMembers first d s with
  | case1 => cases h
  | case2 =>
    rename_i hfinish
    obtain ⟨rfl, -⟩ := Prod.mk.inj (Except.ok.inj h)
    exact hd.finish hfinish
  | case3 => cases h
  | case4 => cases h
  | case5 => cases h
  | case6 =>
    rename_i ih
    exact ih hd h
  | case7 => cases h
  | case8 => cases h
  | case9 => cases h
  | case10 =>
    rename_i hfield _ ih
    exact ih (hd.readField hfield) h

theorem wasRead_of_readElements {fields : List Field} {count : Nat} {d d' : Draft α}
    {s r : List Char} (hd : d.WasRead) (h : readElements fields count d s = .ok (d', r)) :
    d'.WasRead := by
  induction fields generalizing count d s with
  | nil =>
    obtain ⟨rfl, -⟩ := Prod.mk.inj (Except.ok.inj h)
    exact hd
  | cons field fields ih =>
    rw [readElements] at h
    split at h
    · cases h
    · cases h
    · split at h
      · cases h
      · rename_i hfield
        exact ih (hd.readField hfield) h

theorem wasRead_of_readArray {s r : List Char} {e : Event α} (h : readArray s = .ok (e, r)) :
    e.WasRead := by
  rw [readArray] at h
  split at h
  · cases h
  · rename_i helements
    split at h
    · cases h
    · split at h
      · rename_i hfinish
        obtain ⟨rfl, -⟩ := Prod.mk.inj (Except.ok.inj h)
        exact (wasRead_of_readElements Draft.wasRead_empty helements).finish hfinish
      · cases h

theorem wasRead_of_read {s r : List Char} {e : Event α} (h : read s = .ok (e, r)) : e.WasRead := by
  rw [read] at h
  split at h
  · cases h
  · exact wasRead_of_readArray h
  · exact wasRead_of_readMembers Draft.wasRead_empty (mapError_eq_ok_iff.1 h)
  · cases h

/-- **An event that is read is one that can be read**, from whatever text. -/
theorem wasRead_of_parse {s : List Char} {e : Event α} (h : parse s = .ok e) : e.WasRead := by
  rw [parse] at h
  split at h
  · cases h
  · rename_i hread
    split at h
    · exact Except.ok.inj h ▸ wasRead_of_read hread
    · cases h

end QueueJournal.Event
