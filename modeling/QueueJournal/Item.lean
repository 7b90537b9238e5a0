import QueueJournal.Json.Reader
import QueueJournal.Json.Writer

/-!
# Kinds of items

What a queue and its journal need to know of the items they hold: the size of the first buffer that
is allocated for them, when two of them are equal, and how they are written to and read from a
journal. Equality need not be reflexive (a NaN differs from itself), and an item may refuse to be
written or read.
-/

namespace QueueJournal

/-- A kind of item. -/
class Item (α : Type) where
  /-- How many items the first buffer holds: eight of a single byte each, four of any other size. -/
  firstCapacity : Nat
  /-- The first buffer holds at least one item. -/
  firstCapacity_pos : 0 < firstCapacity
  /-- Whether two items are equal. -/
  same : α → α → Bool
  /-- The pieces of the written form, or the reason why there is none. -/
  write : α → Except String (List (List Char))
  /-- Reads an item off the front of a text. -/
  read : List Char → Except Json.Fault (α × List Char)
  /-- An item that is read takes at least one character. -/
  length_lt_of_read : ∀ {s r : List Char} {a : α}, read s = .ok (a, r) → r.length < s.length

/-- The most arrays and objects that may lie inside one another on a line of a journal. -/
def maxDepth : Nat := 127

namespace Item

/-- Goes on with what a reader has read, leaving the rest of the text as it is. -/
def mapRead {α β : Type} (f : α → β) (read : Except Json.Fault (α × List Char)) :
    Except Json.Fault (β × List Char) :=
  read.map fun (a, r) ↦ (f a, r)

theorem mapRead_eq_ok {α β : Type} {f : α → β} {read : Except Json.Fault (α × List Char)} {b : β}
    {r : List Char} (h : mapRead f read = .ok (b, r)) : ∃ a, read = .ok (a, r) := by
  cases read with
  | error e => simp [mapRead, Except.map] at h
  | ok p =>
    simp only [mapRead, Except.map, Except.ok.injEq, Prod.mk.injEq] at h
    exact ⟨p.1, by rw [← h.2]⟩

/-- Texts. -/
instance : Item String where
  firstCapacity := 4
  firstCapacity_pos := by decide
  same a b := a == b
  write a := .ok (Json.stringPieces a.toList)
  read s := mapRead String.ofList (Json.readString "a string" s)
  length_lt_of_read h := by
    obtain ⟨_, hread⟩ := mapRead_eq_ok h
    exact Json.length_lt_of_readString hread

/-- Signed integers of sixty-four bits. -/
instance : Item Int64 where
  firstCapacity := 4
  firstCapacity_pos := by decide
  same a b := a == b
  write a := .ok [Text.signedDecimal a.toInt]
  read s := mapRead Int64.ofInt (Json.readInteger "i64" Int64.minValue.toInt Int64.maxValue.toInt s)
  length_lt_of_read h := by
    obtain ⟨_, hread⟩ := mapRead_eq_ok h
    exact Json.length_lt_of_readInteger hread

/-- Bytes. -/
instance : Item UInt8 where
  firstCapacity := 8
  firstCapacity_pos := by decide
  same a b := a == b
  write a := .ok [Text.decimal a.toNat]
  read s := mapRead (fun n ↦ UInt8.ofNat n.toNat) (Json.readInteger "u8" 0 255 s)
  length_lt_of_read h := by
    obtain ⟨_, hread⟩ := mapRead_eq_ok h
    exact Json.length_lt_of_readInteger hread

/-- Floating-point numbers, compared as numbers. -/
instance : Item Binary64 where
  firstCapacity := 4
  firstCapacity_pos := by decide
  same := Binary64.same
  write a := .ok [(Json.Number.floating a).text]
  read s := Json.readFloating "f64" s
  length_lt_of_read h := Json.length_lt_of_readFloating h

/-- JSON values. The event around an item is one of the objects that lie inside one another. -/
instance : Item Json where
  firstCapacity := 4
  firstCapacity_pos := by decide
  same := Json.same
  write a := .ok a.pieces
  read s := Json.read (maxDepth - 1) s
  length_lt_of_read h := Json.length_lt_of_read h

end Item

/-- A text that can be written and read only if it does not begin with an exclamation mark. -/
structure Fragile where
  /-- The text. -/
  text : String
deriving DecidableEq, Repr

namespace Fragile

/-- Whether the text can neither be written nor read. -/
def isBroken (s : List Char) : Bool :=
  s.head? == some '!'

/-- Reads a text, and refuses it when it is broken. -/
def read (s : List Char) : Except Json.Fault (Fragile × List Char) :=
  match Json.readString "a string" s with
  | .error e => .error e
  | .ok (cs, r) =>
    if isBroken cs then .error (.unplaced (.refused "cannot decode") r)
    else .ok (⟨String.ofList cs⟩, r)

theorem length_lt_of_read {s r : List Char} {a : Fragile} (h : read s = .ok (a, r)) :
    r.length < s.length := by
  rw [read] at h
  split at h
  · simp at h
  · rename_i hread
    split at h
    · simp at h
    · simp only [Except.ok.injEq, Prod.mk.injEq] at h
      exact h.2 ▸ Json.length_lt_of_readString hread

/-- Texts that may refuse to be written or read. -/
instance : Item Fragile where
  firstCapacity := 4
  firstCapacity_pos := by decide
  same a b := a == b
  write a :=
    if isBroken a.text.toList then .error "cannot encode"
    else .ok (Json.stringPieces a.text.toList)
  read := read
  length_lt_of_read := length_lt_of_read

end Fragile

end QueueJournal
