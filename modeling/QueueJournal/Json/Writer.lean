import QueueJournal.Json.NumberLiteral
import QueueJournal.Json.StringLiteral

/-!
# Writing a JSON value

The compact written form: no blanks, members in their order. It comes in pieces, each of which is
handed to the file by itself: every bracket, comma and colon, every word and number, and the pieces
of every string.
-/

namespace QueueJournal.Json

/-- A comma between two elements, and nothing in front of the first. -/
def comma (first : Bool) : List (List Char) :=
  if first then [] else [[',']]

mutual

/-- The pieces of a value. -/
def pieces : Json → List (List Char)
  | .null => ["null".toList]
  | .bool b => [(if b then "true" else "false").toList]
  | .number n => [n.text]
  | .string s => stringPieces s.toList
  | .array elements => ['['] :: elementPieces true elements ++ [[']']]
  | .object members => ['\x7b'] :: memberPieces true members ++ [['\x7d']]

/-- The pieces of the elements of an array. -/
def elementPieces (first : Bool) : List Json → List (List Char)
  | [] => []
  | v :: elements => comma first ++ pieces v ++ elementPieces false elements

/-- The pieces of the members of an object. -/
def memberPieces (first : Bool) : List (String × Json) → List (List Char)
  | [] => []
  | (key, v) :: members =>
    comma first ++ stringPieces key.toList ++ [[':']] ++ pieces v ++ memberPieces false members

end

/-- The written form of a value. -/
def text (v : Json) : List Char :=
  (pieces v).flatten

mutual

/-- How many arrays and objects lie inside one another: none in a scalar, one in an empty array. -/
def depth : Json → Nat
  | .array elements => elementsDepth elements + 1
  | .object members => membersDepth members + 1
  | _ => 0

/-- The greatest depth among elements. -/
def elementsDepth : List Json → Nat
  | [] => 0
  | v :: elements => max (depth v) (elementsDepth elements)

/-- The greatest depth among the values of members. -/
def membersDepth : List (String × Json) → Nat
  | [] => 0
  | (_, v) :: members => max (depth v) (membersDepth members)

end

end QueueJournal.Json
