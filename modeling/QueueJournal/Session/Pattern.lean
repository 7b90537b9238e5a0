import QueueJournal.Queue.Search

/-!
# Patterns

Tests of items that a session can name. Some look at the item, others only count how often they have
been asked.
-/

namespace QueueJournal

/-- What patterns can see of an item. -/
class Visible (α : Type) where
  /-- The text of an item that is a text. -/
  text? : α → Option String
  /-- The number of an item that is an integer. -/
  integer? : α → Option Int

instance : Visible String where
  text? := some
  integer? _ := none

instance : Visible Int64 where
  text? _ := none
  integer? a := some a.toInt

instance : Visible UInt8 where
  text? _ := none
  integer? a := some a.toNat

instance : Visible Binary64 where
  text? _ := none
  integer? _ := none

instance : Visible Json where
  text? a :=
    match a with
    | .string s => some s
    | _ => none
  integer? a :=
    match a with
    | .number (.integer n) => some n
    | _ => none

instance : Visible Fragile where
  text? a := some a.text
  integer? _ := none

/-- A test of items by name. -/
inductive Pattern where
  /-- A text that begins so. -/
  | startsWith (beginning : String)
  /-- A text of more bytes. -/
  | longerThan (bytes : Nat)
  /-- An integer that is greater. -/
  | greaterThan (n : Int)
  /-- The item that is asked about after so many others. -/
  | nthCall (calls : Nat)
  /-- Every item or none. -/
  | always (answer : Bool)
  /-- No item, and the test breaks off after so many. -/
  | panicAt (calls : Nat)
deriving DecidableEq, Repr

namespace Pattern

/-- A truth value as a verdict. -/
def verdict (passes : Bool) : Verdict :=
  if passes then .yes else .no

/-- The test that a pattern stands for. -/
def probe {α : Type} [Visible α] : Pattern → Probe α
  | startsWith beginning => fun _ a ↦
    verdict ((Visible.text? a).any fun s ↦ beginning.toList.isPrefixOf s.toList)
  | longerThan bytes => fun _ a ↦
    verdict ((Visible.text? a).any fun s ↦ bytes < Text.byteCount s.toList)
  | greaterThan n => fun _ a ↦ verdict ((Visible.integer? a).any fun i ↦ n < i)
  | nthCall calls => fun before _ ↦ verdict (before.length == calls)
  | always answer => fun _ _ ↦ verdict answer
  | panicAt calls => fun before _ ↦ if before.length = calls then .panic else .no

end Pattern

end QueueJournal
