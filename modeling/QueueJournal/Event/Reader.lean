import QueueJournal.Event.Basic
import QueueJournal.Json.Skip

/-!
# Reading an event

An event is read from an object, whose fields may stand in any order and among other ones, or from
an array of all eight fields in their order. A field occurs once; `item`, `index` and `size` may be
`null`, and missing from an object.

A fault of the content (a repeated field, a refused item) is placed where the reader stands once it
has tried to take the bracket that would end the event.
-/

namespace QueueJournal.Event

open Json (Fault)

/-! ### Fields -/

/-- The fields of an event. -/
inductive Field where
  /-- The number of the event. -/
  | id
  /-- The name of the worker. -/
  | worker
  /-- The operation. -/
  | operation
  /-- The item. -/
  | item
  /-- The position that the operation touched. -/
  | index
  /-- The count that the operation reported. -/
  | size
  /-- Whether the operation had an effect. -/
  | accepted
  /-- The time of the event. -/
  | atMicros
deriving DecidableEq, Repr

namespace Field

/-- The fields in their order. -/
def all : List Field :=
  [id, worker, operation, item, index, size, accepted, atMicros]

/-- The name of a field in a journal. -/
def name : Field → String
  | id => "id"
  | worker => "worker"
  | operation => "op"
  | item => "item"
  | index => "index"
  | size => "size"
  | accepted => "accepted"
  | atMicros => "at_micros"

/-- The field of that name. -/
def ofName? (name : String) : Option Field :=
  all.find? fun field ↦ field.name == name

@[simp]
theorem ofName?_name (field : Field) : ofName? field.name = some field := by
  cases field <;> decide

end Field

/-- The fields of an event that have been read so far. -/
structure Draft (α : Type) where
  /-- The number of the event. -/
  id : Option Nat
  /-- The name of the worker. -/
  worker : Option String
  /-- The operation. -/
  operation : Option Operation
  /-- The item, which may be read as absent. -/
  item : Option (Option α)
  /-- The position, which may be read as absent. -/
  index : Option (Option Nat)
  /-- The count, which may be read as absent. -/
  size : Option (Option Nat)
  /-- Whether the operation had an effect. -/
  accepted : Option Bool
  /-- The time of the event. -/
  atMicros : Option Nat

namespace Draft

variable {α : Type}

/-- Nothing has been read. -/
def empty : Draft α where
  id := none
  worker := none
  operation := none
  item := none
  index := none
  size := none
  accepted := none
  atMicros := none

/-- Whether the field has been read. -/
def has (d : Draft α) : Field → Bool
  | .id => d.id.isSome
  | .worker => d.worker.isSome
  | .operation => d.operation.isSome
  | .item => d.item.isSome
  | .index => d.index.isSome
  | .size => d.size.isSome
  | .accepted => d.accepted.isSome
  | .atMicros => d.atMicros.isSome

/-- The event, or the first required field that is missing. -/
def finish (d : Draft α) : Except Field (Event α) :=
  match d.id, d.worker, d.operation, d.accepted, d.atMicros with
  | none, _, _, _, _ => .error .id
  | some _, none, _, _, _ => .error .worker
  | some _, some _, none, _, _ => .error .operation
  | some _, some _, some _, none, _ => .error .accepted
  | some _, some _, some _, some _, none => .error .atMicros
  | some id, some worker, some operation, some accepted, some atMicros =>
    .ok {
      id, worker, operation, accepted, atMicros
      item := d.item.join
      index := d.index.join
      size := d.size.join }

end Draft

/-! ### Values of fields -/

/-- The operation of that name, where the name has been read. -/
def namedOperation (name rest : List Char) : Except Fault Operation :=
  match Operation.ofName? (String.ofList name) with
  | some op => .ok op
  | none => .error (.here (.unknownName name (Operation.all.map Operation.name)) rest)

/-- The key of an operation that is given as an object, behind its opening bracket. -/
def readOperationKey (s : List Char) : Except Fault (List Char × List Char) :=
  match Json.skipSpace s with
  | [] => .error (.atEnd .endInObject)
  | c :: r =>
    if c = '"' then Json.readChars r
    else if c = '\x7d' then .error (.onNext .noValue (c :: r))
    else .error (.onNext .keyNotString (c :: r))

/-- The bracket behind an operation that is given as an object. -/
def closeOperation (s : List Char) : Except Fault (List Char) :=
  match Json.skipSpace s with
  | [] => .error (.atEnd .endInObject)
  | c :: r => if c = '\x7d' then .ok r else .error (.here .noValue (c :: r))

/-- An operation: its name, or an object with the name as its only key and `null` under it. -/
def readOperation (s : List Char) : Except Fault (Operation × List Char) :=
  match Json.skipSpace s with
  | [] => .error (.atEnd .endInValue)
  | '"' :: r => do
    let (name, rest) ← Json.readChars r
    let op ← namedOperation name rest
    return (op, rest)
  | '\x7b' :: r => do
    let (name, rest) ← readOperationKey r
    let op ← namedOperation name rest
    let rest ← Json.readColon rest
    let rest ← Json.readNull rest
    let rest ← closeOperation rest
    return (op, rest)
  | c :: r => .error (.onNext .noValue (c :: r))

/-- Reads the value of a field into the draft. -/
def readField {α : Type} [Item α] (field : Field) (d : Draft α) (s : List Char) :
    Except Fault (Draft α × List Char) :=
  match field with
  | .id => do
    let (id, r) ← Json.readNat "u64" s
    return ({ d with id := some id }, r)
  | .worker => do
    let (worker, r) ← Json.readString "a string" s
    return ({ d with worker := some (String.ofList worker) }, r)
  | .operation => do
    let (op, r) ← readOperation s
    return ({ d with operation := some op }, r)
  | .item => do
    let (item, r) ← Json.readOption Item.read s
    return ({ d with item := some item }, r)
  | .index => do
    let (index, r) ← Json.readOption (Json.readNat "usize") s
    return ({ d with index := some index }, r)
  | .size => do
    let (size, r) ← Json.readOption (Json.readNat "usize") s
    return ({ d with size := some size }, r)
  | .accepted => do
    let (accepted, r) ← Json.readBool s
    return ({ d with accepted := some accepted }, r)
  | .atMicros => do
    let (atMicros, r) ← Json.readNat "u64" s
    return ({ d with atMicros := some atMicros }, r)

theorem length_lt_of_readOperationKey {cs s r : List Char}
    (h : readOperationKey s = .ok (cs, r)) : r.length < s.length := by
  rw [readOperationKey] at h
  split at h
  · simp at h
  · rename_i hs
    have := Json.length_lt_of_skipSpace hs
    split at h
    · have := Json.length_lt_of_readChars h
      omega
    · split at h <;> simp at h

theorem length_lt_of_closeOperation {s r : List Char} (h : closeOperation s = .ok r) :
    r.length < s.length := by
  rw [closeOperation] at h
  split at h
  · simp at h
  · rename_i hs
    split at h
    · simp only [Except.ok.injEq] at h
      exact h ▸ Json.length_lt_of_skipSpace hs
    · simp at h

theorem length_lt_of_readOperation {s r : List Char} {op : Operation}
    (h : readOperation s = .ok (op, r)) : r.length < s.length := by
  rw [readOperation] at h
  split at h
  · simp at h
  · rename_i hs
    have := Json.length_lt_of_skipSpace hs
    obtain ⟨⟨name, rest⟩, hname, h⟩ := Json.bind_eq_ok h
    obtain ⟨op', -, h⟩ := Json.bind_eq_ok h
    have := Json.length_lt_of_readChars hname
    simp only [pure, Except.pure, Except.ok.injEq, Prod.mk.injEq] at h
    rw [← h.2]
    omega
  · rename_i hs
    have := Json.length_lt_of_skipSpace hs
    obtain ⟨⟨name, r₁⟩, hname, h⟩ := Json.bind_eq_ok h
    obtain ⟨op', -, h⟩ := Json.bind_eq_ok h
    obtain ⟨r₂, hcolon, h⟩ := Json.bind_eq_ok h
    obtain ⟨r₃, hnull, h⟩ := Json.bind_eq_ok h
    obtain ⟨r₄, hclose, h⟩ := Json.bind_eq_ok h
    have := length_lt_of_readOperationKey hname
    have := Json.length_lt_of_readColon hcolon
    have := Json.length_lt_of_readNull hnull
    have := length_lt_of_closeOperation hclose
    simp only [pure, Except.pure, Except.ok.injEq, Prod.mk.injEq] at h
    rw [← h.2]
    omega
  · simp at h

theorem length_lt_of_readField {α : Type} [Item α] {field : Field} {d d' : Draft α}
    {s r : List Char} (h : readField field d s = .ok (d', r)) : r.length < s.length := by
  cases field
  all_goals
    simp only [readField] at h
    obtain ⟨⟨value, rest⟩, hread, h⟩ := Json.bind_eq_ok h
    simp only [pure, Except.pure, Except.ok.injEq, Prod.mk.injEq] at h
    rw [← h.2]
  case id => exact Json.length_lt_of_readNat hread
  case worker => exact Json.length_lt_of_readString hread
  case operation => exact length_lt_of_readOperation hread
  case item => exact Json.length_lt_of_readOption Item.length_lt_of_read hread
  case index => exact Json.length_lt_of_readOption Json.length_lt_of_readNat hread
  case size => exact Json.length_lt_of_readOption Json.length_lt_of_readNat hread
  case accepted => exact Json.length_lt_of_readBool hread
  case atMicros => exact Json.length_lt_of_readNat hread

/-! ### Objects -/

/-- The members of the object from here to its end, the first of them or a later one. -/
def readMembers {α : Type} [Item α] (first : Bool) (d : Draft α) (s : List Char) :
    Except Fault (Event α × List Char) :=
  match h : Json.nextKey first s with
  | .error e => .error e
  | .ok (.done r) =>
    match d.finish with
    | .ok event => .ok (event, r)
    | .error field => .error (.here (.missingField field.name) r)
  | .ok (.more key r) =>
    have := Json.length_lt_of_nextKey_more h
    match Field.ofName? (String.ofList key) with
    | none =>
      match hcolon : Json.readColon r with
      | .error e => .error e
      | .ok r₁ =>
        have := Json.length_lt_of_readColon hcolon
        match hskip : Json.skip r₁ with
        | .error e => .error e
        | .ok r₂ =>
          have := Json.length_lt_of_skip hskip
          readMembers false d r₂
    | some field =>
      if d.has field then .error (.unplaced (.repeatedField field.name) r)
      else
        match hcolon : Json.readColon r with
        | .error e => .error e
        | .ok r₁ =>
          have := Json.length_lt_of_readColon hcolon
          match hfield : readField field d r₁ with
          | .error e => .error e
          | .ok (d', r₂) =>
            have := length_lt_of_readField hfield
            readMembers false d' r₂
termination_by s.length
decreasing_by all_goals omega

/-- Places a fault of the content: blanks are passed over, and the brace that ends an object. -/
def placeInObject : Fault → Fault
  | .placed cause unread => .placed cause unread
  | .unplaced cause rest =>
    match Json.skipSpace rest with
    | '\x7d' :: r => .here cause r
    | r => .here cause r

/-! ### Arrays -/

/-- How messages name an event. -/
def expectation : String := "struct Event"

/-- The given fields, the first of which follows `count` others. -/
def readElements {α : Type} [Item α] (fields : List Field) (count : Nat) (d : Draft α)
    (s : List Char) : Except Fault (Draft α × List Char) :=
  match fields with
  | [] => .ok (d, s)
  | field :: fields =>
    match Json.nextElement (count == 0) s with
    | .error e => .error e
    | .ok (.done r) => .error (.here (.tooFewElements count (expectation ++ " with 8 elements")) r)
    | .ok (.more r) =>
      match readField field d r with
      | .error e => .error e
      | .ok (d', r') => readElements fields (count + 1) d' r'

/-- The end of the array, which must follow its eighth element. -/
def closeArray (s : List Char) : Except Fault (List Char) :=
  match Json.skipSpace s with
  | [] => .error (.atEnd .endInArray)
  | c :: r =>
    if c = ']' then .ok r
    else if c = ',' then
      match Json.skipSpace r with
      | ']' :: r' => .error (.onNext .trailingComma (']' :: r'))
      | r' => .error (.onNext .trailingCharacters r')
    else .error (.onNext .trailingCharacters (c :: r))

/-- Places a fault of the content: blanks are passed over, and the bracket that ends an array or a
comma with the blanks behind it. -/
def placeInArray : Fault → Fault
  | .placed cause unread => .placed cause unread
  | .unplaced cause rest =>
    match Json.skipSpace rest with
    | ']' :: r => .here cause r
    | ',' :: r => .here cause (Json.skipSpace r)
    | r => .here cause r

/-- An event that is given as an array, behind its opening bracket. -/
def readArray {α : Type} [Item α] (s : List Char) : Except Fault (Event α × List Char) :=
  match readElements Field.all 0 Draft.empty s with
  | .error e => .error (placeInArray e)
  | .ok (d, r) =>
    match closeArray r with
    | .error e => .error e
    | .ok rest =>
      match d.finish with
      | .ok event => .ok (event, rest)
      | .error field => .error (.here (.missingField field.name) rest)

/-! ### Events -/

/-- An event. -/
def read {α : Type} [Item α] (s : List Char) : Except Fault (Event α × List Char) :=
  match Json.skipSpace s with
  | [] => .error (.atEnd .endInValue)
  | '[' :: r => readArray r
  | '\x7b' :: r => (readMembers true Draft.empty r).mapError placeInObject
  | r => .error (Json.unexpected expectation r)

/-- The event that a text holds, with nothing behind it but blanks. -/
def parse {α : Type} [Item α] (s : List Char) : Except Fault (Event α) :=
  match read s with
  | .error e => .error e
  | .ok (event, r) =>
    match Json.skipSpace r with
    | [] => .ok event
    | r => .error (.onNext .trailingCharacters r)

end QueueJournal.Event
