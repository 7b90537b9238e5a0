import QueueJournal.Decimal.Binary64

/-!
# JSON values

Values as they are held once a text has been read. An integer of at most sixty-four bits stays an
integer, signed or unsigned; any other number is a binary floating-point number. The members of an
object are sorted by key and no key occurs twice, which `insertMember` keeps.
-/

namespace QueueJournal

/-- A JSON number: an integer and a floating-point number are never equal. -/
inductive Json.Number where
  /-- An integer between `-2 ^ 63` and `2 ^ 64 - 1`. -/
  | integer (n : Int)
  /-- Any other number. -/
  | floating (x : Binary64)
deriving DecidableEq, Repr

/-- A JSON value. -/
inductive Json where
  /-- The value without content. -/
  | null
  /-- A truth value. -/
  | bool (b : Bool)
  /-- A number. -/
  | number (n : Json.Number)
  /-- A text. -/
  | string (s : String)
  /-- Values in order. -/
  | array (elements : List Json)
  /-- Values by key, in increasing order of the keys. -/
  | object (members : List (String × Json))

namespace Json

instance : Inhabited Json := ⟨.null⟩

/-- Whether the integer fits one of the two sixty-four bit ranges. -/
def Number.InRange : Number → Prop
  | .integer n => Int64.minValue.toInt ≤ n ∧ n < (UInt64.size : Nat)
  | .floating _ => True

/-- Equality of numbers; floating-point numbers are compared as numbers, not as bits. -/
def Number.same : Number → Number → Bool
  | .integer m, .integer n => m == n
  | .floating x, .floating y => x.same y
  | _, _ => false

mutual

/-- Equality of values. -/
def same : Json → Json → Bool
  | .null, .null => true
  | .bool a, .bool b => a == b
  | .number m, .number n => m.same n
  | .string s, .string t => s == t
  | .array xs, .array ys => sameElements xs ys
  | .object ms, .object ns => sameMembers ms ns
  | _, _ => false

/-- Equality of lists of values, element by element. -/
def sameElements : List Json → List Json → Bool
  | [], [] => true
  | x :: xs, y :: ys => same x y && sameElements xs ys
  | _, _ => false

/-- Equality of lists of members, member by member. -/
def sameMembers : List (String × Json) → List (String × Json) → Bool
  | [], [] => true
  | (k, x) :: ms, (l, y) :: ns => k == l && same x y && sameMembers ms ns
  | _, _ => false

end

/-- Puts a value under a key: in its place among the sorted members, and instead of the value that
the key had. -/
def insertMember (key : String) (value : Json) : List (String × Json) → List (String × Json)
  | [] => [(key, value)]
  | (k, v) :: members =>
    if key < k then (key, value) :: (k, v) :: members
    else if key = k then (key, value) :: members
    else (k, v) :: insertMember key value members

/-- The object with these members, where the last value of a repeated key counts. -/
def ofMembers (members : List (String × Json)) : Json :=
  .object (members.foldl (fun done (key, value) ↦ insertMember key value done) [])

end Json

end QueueJournal
