import QueueJournal.Event.Basic

/-!
# Writing an event

An event is written as an object with its fields in a fixed order; `item`, `index` and `size` are
left out when there is none. The object is written piece by piece, so that an item which refuses to
be written leaves everything in front of it behind.
-/

namespace QueueJournal

/-- What has been written, and why it is not complete if it is not. -/
structure Writing where
  /-- The pieces in order. -/
  pieces : List (List Char)
  /-- Why the writing stopped. -/
  refusal : Option String

namespace Event

variable {α : Type}

/-- The pieces of a key and its colon. -/
def keyPieces (name : String) : List (List Char) :=
  Json.stringPieces name.toList ++ [[':']]

/-- The pieces of a field that is not the first. -/
def fieldPieces (name : String) (value : List (List Char)) : List (List Char) :=
  [','] :: keyPieces name ++ value

/-- The pieces of a field that may be absent. -/
def optionalPieces (name : String) : Option Nat → List (List Char)
  | none => []
  | some n => fieldPieces name [Text.decimal n]

/-- The pieces in front of the item. -/
def piecesBefore (e : Event α) : List (List Char) :=
  ['\x7b'] :: keyPieces "id" ++ [Text.decimal e.id] ++
    fieldPieces "worker" (Json.stringPieces e.worker.toList) ++
    fieldPieces "op" (Json.stringPieces e.operation.name.toList)

/-- The pieces behind the item. -/
def piecesAfter (e : Event α) : List (List Char) :=
  optionalPieces "index" e.index ++ optionalPieces "size" e.size ++
    fieldPieces "accepted" [(if e.accepted then "true" else "false").toList] ++
    fieldPieces "at_micros" [Text.decimal e.atMicros] ++ [['\x7d']]

/-- Writes an event, up to its item if that refuses to be written. -/
def write [Item α] (e : Event α) : Writing :=
  match e.item with
  | none => ⟨e.piecesBefore ++ e.piecesAfter, none⟩
  | some item =>
    match Item.write item with
    | .ok pieces => ⟨e.piecesBefore ++ fieldPieces "item" pieces ++ e.piecesAfter, none⟩
    | .error reason => ⟨e.piecesBefore ++ fieldPieces "item" [], some reason⟩

/-- The written form of an event, or the reason why it has none. -/
def text [Item α] (e : Event α) : Except String (List Char) :=
  match e.write.refusal with
  | none => .ok e.write.pieces.flatten
  | some reason => .error reason

end Event

end QueueJournal
