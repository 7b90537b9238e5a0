import QueueJournal.Event.Reader
import QueueJournal.Event.Writer
import QueueJournal.Proofs.Json.Literal

/-!
# An event that is written is read back

An event whose item can be written is read back field for field (`Event.parse_of_write`), if its
numbers are of sixty-four bits. That holds of every kind of item that keeps a law of its own:
whatever is written of an item is read as that item (`Item.Faithful`). Texts, signed integers and
bytes keep it, and none of them refuses to be written (`Item.Plain`).

The object of an event is read member by member, in the order in which the fields were written. An
event whose item refuses to be written ends behind the colon of the item, where nothing can be read
(`Event.parse_of_refusal`).
-/

namespace QueueJournal

namespace Item

/-- Whatever is written of an item is read as that item, and takes no more than one line. -/
structure Faithful (α : Type) [Item α] : Prop where
  /-- What is written is read. -/
  reads : ∀ {a : α} {pieces : List (List Char)} {r : List Char}, write a = .ok pieces →
    Json.EndsNumber r → Json.readOption read (pieces.flatten ++ r) = .ok (some a, r)
  /-- What is written holds no line feed. -/
  oneLine : ∀ {a : α} {pieces : List (List Char)}, write a = .ok pieces → '\n' ∉ pieces.flatten

/-- No item begins with a brace, as an event does. -/
def Braceless (α : Type) [Item α] : Prop :=
  ∀ s, ∃ fault, (read ('\x7b' :: s) : Except Json.Fault (α × List Char)) = .error fault

/-- The kinds of items that are never refused: texts, signed integers and bytes. -/
inductive Plain : (α : Type) → [Item α] → Prop where
  /-- Texts. -/
  | text : Plain String
  /-- Signed integers of sixty-four bits. -/
  | integer : Plain Int64
  /-- Bytes. -/
  | byte : Plain UInt8

theorem mapRead_of_eq {α β : Type} {f : α → β} {read : Except Json.Fault (α × List Char)} {a : α}
    {b : β} {r : List Char} (hread : read = .ok (a, r)) (hb : f a = b) :
    mapRead f read = .ok (b, r) := by
  rw [hread, ← hb]
  rfl

theorem faithful_string : Faithful String where
  reads {a pieces r} hwrite _ := by
    obtain rfl := Except.ok.inj hwrite
    have hread := Json.readString_stringPieces "a string" a.toList r
    exact Json.readOption_stringPieces (mapRead_of_eq hread String.ofList_toList)
  oneLine {a pieces} hwrite := by
    obtain rfl := Except.ok.inj hwrite
    exact Json.lineFeed_notMem_stringPieces a.toList

theorem faithful_int64 : Faithful Int64 where
  reads {a pieces r} hwrite hr := by
    obtain rfl := Except.ok.inj hwrite
    have hlow := a.le_toInt
    have hhigh := a.toInt_lt
    have hread : Json.readInteger "i64" Int64.minValue.toInt Int64.maxValue.toInt
        (Text.signedDecimal a.toInt ++ r) = .ok (a.toInt, r) := by
      refine Json.readInteger_signedDecimal "i64" a.minValue_le_toInt a.toInt_le ?_ ?_ hr
      · simpa using hlow
      · simp only [UInt64.size]
        omega
    rw [List.flatten_singleton]
    exact Json.readOption_signedDecimal (mapRead_of_eq hread (Int64.ofInt_toInt a))
  oneLine {a pieces} hwrite := by
    obtain rfl := Except.ok.inj hwrite
    rw [List.flatten_singleton]
    exact Json.lineFeed_notMem_signedDecimal a.toInt

theorem faithful_uint8 : Faithful UInt8 where
  reads {a pieces r} hwrite hr := by
    obtain rfl := Except.ok.inj hwrite
    have hlt := a.toNat_lt
    have hread : Json.readInteger "u8" 0 255 (Text.signedDecimal a.toNat ++ r) =
        .ok ((a.toNat : Int), r) := by
      refine Json.readInteger_signedDecimal "u8" (by omega) (by omega) (by omega) ?_ hr
      simp only [UInt64.size]
      omega
    rw [List.flatten_singleton, ← Json.signedDecimal_natCast]
    exact Json.readOption_signedDecimal (mapRead_of_eq hread UInt8.ofNat_toNat)
  oneLine {a pieces} hwrite := by
    obtain rfl := Except.ok.inj hwrite
    rw [List.flatten_singleton]
    exact Json.lineFeed_notMem_decimal a.toNat

theorem Plain.faithful {α : Type} [Item α] (h : Plain α) : Faithful α := by
  cases h with
  | text => exact faithful_string
  | integer => exact faithful_int64
  | byte => exact faithful_uint8

theorem Plain.exists_write {α : Type} [Item α] (h : Plain α) (a : α) :
    ∃ pieces, write a = .ok pieces := by
  cases h with
  | text => exact ⟨_, rfl⟩
  | integer => exact ⟨_, rfl⟩
  | byte => exact ⟨_, rfl⟩

end Item

namespace Event

variable {α : Type} [Item α] {e : Event α}

/-- The numbers of an event are of sixty-four bits. -/
structure InRange (e : Event α) : Prop where
  /-- So is its own number. -/
  id : e.id < UInt64.size
  /-- So is the position. -/
  index : ∀ index, e.index = some index → index < UInt64.size
  /-- So is the count. -/
  size : ∀ size, e.size = some size → size < UInt64.size
  /-- So is the time. -/
  atMicros : e.atMicros < UInt64.size

omit [Item α] in
theorem inRange_iff (e : Event α) : e.InRange ↔ e.id < UInt64.size ∧
    (∀ n ∈ e.index, n < UInt64.size) ∧ (∀ n ∈ e.size, n < UInt64.size) ∧
    e.atMicros < UInt64.size :=
  ⟨fun ⟨hid, hindex, hsize, hat⟩ ↦ ⟨hid, hindex, hsize, hat⟩,
    fun ⟨hid, hindex, hsize, hat⟩ ↦ ⟨hid, hindex, hsize, hat⟩⟩

omit [Item α] in
instance (e : Event α) : Decidable e.InRange :=
  decidable_of_iff' _ e.inRange_iff

/-! ### One member after the other -/

/-- Behind a key that has not been there yet, the value is read and then the other members. -/
theorem readMembers_of_key {first : Bool} {d : Draft α} {s key r r₁ : List Char} {field : Field}
    (hkey : Json.nextKey first s = .ok (.more key r))
    (hname : Field.ofName? (String.ofList key) = some field) (hnew : d.has field = false)
    (hcolon : Json.readColon r = .ok r₁) :
    readMembers first d s =
      (readField field d r₁).bind fun (d', r₂) ↦ readMembers false d' r₂ := by
  rw [readMembers]
  split
  case h_1 hnext => simp [hkey] at hnext
  case h_2 hnext => simp [hkey] at hnext
  case h_3 hnext =>
    obtain ⟨rfl, rfl⟩ : key = _ ∧ r = _ := by simpa [hkey] using hnext
    simp only [hname, hnew, Bool.false_eq_true, if_false]
    split
    case h_1 hnone => simp [hcolon] at hnone
    case h_2 hsome =>
      obtain rfl : r₁ = _ := by simpa [hcolon] using hsome
      split
      case h_1 hread => rw [hread, Except.bind]
      case h_2 hread => rw [hread, Except.bind]

theorem readMembers_of_done {first : Bool} {d : Draft α} {s r : List Char}
    (hkey : Json.nextKey first s = .ok (.done r)) (hfinish : d.finish = .ok e) :
    readMembers first d s = .ok (e, r) := by
  rw [readMembers]
  split
  case h_1 hnext => simp [hkey] at hnext
  case h_2 hnext =>
    obtain rfl : r = _ := by simpa [hkey] using hnext
    simp only [hfinish]
  case h_3 hnext => simp [hkey] at hnext

/-- A key that has been written is read back. -/
theorem nextKey_keyPieces (name : String) (r : List Char) :
    Json.nextKey true ((keyPieces name).flatten ++ r) = .ok (.more name.toList (':' :: r)) := by
  have hkey := Json.nextKey_more true name.toList (':' :: r)
  simpa [keyPieces, Json.comma] using hkey

theorem nextKey_fieldPieces (name : String) (value : List (List Char)) (r : List Char) :
    Json.nextKey false ((fieldPieces name value).flatten ++ r) =
      .ok (.more name.toList (':' :: (value.flatten ++ r))) := by
  have hkey := Json.nextKey_more false name.toList (':' :: (value.flatten ++ r))
  simpa [fieldPieces, keyPieces, Json.comma] using hkey

/-- The first member is read. -/
theorem readMembers_keyPieces {d d' : Draft α} {r r' : List Char} (field : Field)
    (hnew : d.has field = false) (hread : readField field d r = .ok (d', r')) :
    readMembers true d ((keyPieces field.name).flatten ++ r) = readMembers false d' r' := by
  rw [readMembers_of_key (nextKey_keyPieces field.name r) (by simp) hnew (Json.readColon_cons r),
    hread]
  rfl

/-- A later member is read. -/
theorem readMembers_fieldPieces {d d' : Draft α} {r r' : List Char} (field : Field)
    (value : List (List Char)) (hnew : d.has field = false)
    (hread : readField field d (value.flatten ++ r) = .ok (d', r')) :
    readMembers false d ((fieldPieces field.name value).flatten ++ r) =
      readMembers false d' r' := by
  rw [readMembers_of_key (nextKey_fieldPieces field.name value r) (by simp) hnew
    (Json.readColon_cons _), hread]
  rfl

/-- A number is followed by another member or by the end of the object. -/
theorem endsNumber_fieldPieces (name : String) (value : List (List Char)) (r : List Char) :
    Json.EndsNumber ((fieldPieces name value).flatten ++ r) :=
  ⟨rfl, by decide, by decide, by decide⟩

theorem endsNumber_optionalPieces (name : String) (value : Option Nat) {r : List Char}
    (hr : Json.EndsNumber r) : Json.EndsNumber ((optionalPieces name value).flatten ++ r) := by
  cases value with
  | none => exact hr
  | some n => exact endsNumber_fieldPieces ..

/-! ### The values of the members -/

theorem readField_id (d : Draft α) {n : Nat} (hn : n < UInt64.size) {r : List Char}
    (hr : Json.EndsNumber r) :
    readField .id d (Text.decimal n ++ r) = .ok ({ d with id := some n }, r) := by
  rw [readField, Json.readNat_decimal "u64" hn hr]
  rfl

theorem readField_worker (d : Draft α) (worker : String) (r : List Char) :
    readField .worker d ((Json.stringPieces worker.toList).flatten ++ r) =
      .ok ({ d with worker := some worker }, r) := by
  rw [readField, Json.readString_stringPieces]
  exact congrArg (fun text ↦ Except.ok ({ d with worker := some text }, r)) String.ofList_toList

theorem readField_operation (d : Draft α) (operation : Operation) (r : List Char) :
    readField .operation d ((Json.stringPieces operation.name.toList).flatten ++ r) =
      .ok ({ d with operation := some operation }, r) := by
  have hname : namedOperation operation.name.toList r = .ok operation := by simp [namedOperation]
  have hread := Json.readChars_flatMap_writeChar operation.name.toList r
  rw [readField, readOperation, Json.flatten_stringPieces, List.append_assoc, List.cons_append,
    Json.skipSpace_cons (by decide), List.singleton_append]
  simp only [hread, hname, bind, Except.bind]
  rfl

theorem readOption_decimal {n : Nat} (hn : n < UInt64.size) {r : List Char}
    (hr : Json.EndsNumber r) :
    Json.readOption (Json.readNat "usize") (Text.decimal n ++ r) = .ok (some n, r) := by
  have hread := Json.readNat_decimal "usize" hn hr
  rw [← Json.signedDecimal_natCast] at hread ⊢
  exact Json.readOption_signedDecimal hread

theorem readField_index (d : Draft α) {n : Nat} (hn : n < UInt64.size) {r : List Char}
    (hr : Json.EndsNumber r) :
    readField .index d (Text.decimal n ++ r) = .ok ({ d with index := some (some n) }, r) := by
  rw [readField, readOption_decimal hn hr]
  rfl

theorem readField_size (d : Draft α) {n : Nat} (hn : n < UInt64.size) {r : List Char}
    (hr : Json.EndsNumber r) :
    readField .size d (Text.decimal n ++ r) = .ok ({ d with size := some (some n) }, r) := by
  rw [readField, readOption_decimal hn hr]
  rfl

theorem readField_accepted (d : Draft α) (accepted : Bool) (r : List Char) :
    readField .accepted d ((if accepted then "true" else "false").toList ++ r) =
      .ok ({ d with accepted := some accepted }, r) := by
  rw [readField, Json.readBool_word]
  rfl

theorem readField_atMicros (d : Draft α) {n : Nat} (hn : n < UInt64.size) {r : List Char}
    (hr : Json.EndsNumber r) :
    readField .atMicros d (Text.decimal n ++ r) = .ok ({ d with atMicros := some n }, r) := by
  rw [readField, Json.readNat_decimal "u64" hn hr]
  rfl

/-! ### All members -/

/-- What has been read in front of the item. -/
def draftBefore (e : Event α) : Draft α :=
  { Draft.empty with id := some e.id, worker := some e.worker, operation := some e.operation }

/-- **The members in front of the item are read back**, whatever follows them. -/
theorem readMembers_piecesBefore (hid : e.id < UInt64.size) (r : List Char) :
    ∃ s, e.piecesBefore.flatten ++ r = '\x7b' :: s ∧
      readMembers true Draft.empty s = readMembers false e.draftBefore r := by
  let afterWorker := (fieldPieces "op" (Json.stringPieces e.operation.name.toList)).flatten ++ r
  let afterId := (fieldPieces "worker" (Json.stringPieces e.worker.toList)).flatten ++ afterWorker
  refine ⟨(keyPieces "id").flatten ++ (Text.decimal e.id ++ afterId), ?_, ?_⟩
  · simp [piecesBefore, afterId, afterWorker]
  · have hnumber : Json.EndsNumber afterId := endsNumber_fieldPieces ..
    calc readMembers true Draft.empty ((keyPieces "id").flatten ++ (Text.decimal e.id ++ afterId))
        = readMembers false { Draft.empty with id := some e.id } afterId :=
          readMembers_keyPieces .id rfl (readField_id _ hid hnumber)
      _ = readMembers false { Draft.empty with id := some e.id, worker := some e.worker }
            afterWorker :=
          readMembers_fieldPieces .worker _ rfl (readField_worker ..)
      _ = readMembers false e.draftBefore r :=
          readMembers_fieldPieces .operation _ rfl (readField_operation ..)

/-- A position is read back, if there is one. -/
theorem readMembers_index {d : Draft α} (hnew : d.index = none) {index : Option Nat}
    (hindex : ∀ n, index = some n → n < UInt64.size) {r : List Char} (hr : Json.EndsNumber r) :
    readMembers false d ((optionalPieces "index" index).flatten ++ r) =
      readMembers false { d with index := index.map some } r := by
  cases index with
  | none => rw [Option.map_none, ← hnew]; rfl
  | some n =>
    refine readMembers_fieldPieces .index [Text.decimal n] (by simp [Draft.has, hnew]) ?_
    rw [List.flatten_singleton]
    exact readField_index d (hindex n rfl) hr

/-- A count is read back, if there is one. -/
theorem readMembers_size {d : Draft α} (hnew : d.size = none) {size : Option Nat}
    (hsize : ∀ n, size = some n → n < UInt64.size) {r : List Char} (hr : Json.EndsNumber r) :
    readMembers false d ((optionalPieces "size" size).flatten ++ r) =
      readMembers false { d with size := size.map some } r := by
  cases size with
  | none => rw [Option.map_none, ← hnew]; rfl
  | some n =>
    refine readMembers_fieldPieces .size [Text.decimal n] (by simp [Draft.has, hnew]) ?_
    rw [List.flatten_singleton]
    exact readField_size d (hsize n rfl) hr

/-- **The members behind the item are read back**, and the event is complete with the item that has
been read, if any. -/
theorem readMembers_piecesAfter (hrange : e.InRange) (item : Option (Option α)) (r : List Char) :
    readMembers false { e.draftBefore with item := item } (e.piecesAfter.flatten ++ r) =
      .ok ({ e with item := item.join }, r) := by
  let afterAccepted := (fieldPieces "at_micros" [Text.decimal e.atMicros]).flatten ++ '\x7d' :: r
  let afterSize :=
    (fieldPieces "accepted" [(if e.accepted then "true" else "false").toList]).flatten ++
      afterAccepted
  let afterIndex := (optionalPieces "size" e.size).flatten ++ afterSize
  have hpieces : e.piecesAfter.flatten ++ r =
      (optionalPieces "index" e.index).flatten ++ afterIndex := by
    simp [piecesAfter, afterIndex, afterSize, afterAccepted]
  have hafterSize : Json.EndsNumber afterSize := endsNumber_fieldPieces ..
  have hafterIndex : Json.EndsNumber afterIndex :=
    endsNumber_optionalPieces "size" e.size hafterSize
  have hdone := Json.nextKey_done false r
  let d : Draft α := { e.draftBefore with item := item }
  calc readMembers false d (e.piecesAfter.flatten ++ r)
      = readMembers false { d with index := e.index.map some } afterIndex := by
        rw [hpieces]
        exact readMembers_index rfl hrange.index hafterIndex
    _ = readMembers false { d with index := e.index.map some, size := e.size.map some }
          afterSize :=
        readMembers_size rfl hrange.size hafterSize
    _ = readMembers false { d with
          index := e.index.map some, size := e.size.map some, accepted := some e.accepted }
          afterAccepted := by
        refine readMembers_fieldPieces .accepted _ rfl ?_
        rw [List.flatten_singleton]
        exact readField_accepted ..
    _ = readMembers false { d with
          index := e.index.map some, size := e.size.map some, accepted := some e.accepted,
          atMicros := some e.atMicros } ('\x7d' :: r) := by
        refine readMembers_fieldPieces .atMicros _ rfl ?_
        rw [List.flatten_singleton]
        exact readField_atMicros _ hrange.atMicros ⟨rfl, by decide, by decide, by decide⟩
    _ = .ok ({ e with item := item.join }, r) := by
        have hjoin : ∀ {β : Type} (o : Option β), (o.map some).join = o := fun o ↦ by
          cases o <;> rfl
        refine readMembers_of_done hdone ?_
        simp only [Draft.finish, draftBefore, d, hjoin]

omit [Item α] in
theorem endsNumber_piecesAfter (e : Event α) : Json.EndsNumber e.piecesAfter.flatten := by
  simp only [piecesAfter, List.flatten_append, List.append_assoc]
  exact endsNumber_optionalPieces "index" _
    (endsNumber_optionalPieces "size" _ (endsNumber_fieldPieces ..))

/-! ### The whole event -/

/-- What has been written of an event whose item has been written. -/
theorem write_of_item {item : α} {pieces : List (List Char)} (hitem : e.item = some item)
    (hwrite : Item.write item = .ok pieces) :
    e.write = ⟨e.piecesBefore ++ fieldPieces "item" pieces ++ e.piecesAfter, none⟩ := by
  simp only [write, hitem, hwrite]

/-- What has been written of an event is all of it, or ends behind the colon of its item. -/
theorem write_cases (e : Event α) :
    (e.item = none ∧ e.write = ⟨e.piecesBefore ++ e.piecesAfter, none⟩) ∨
      (∃ item pieces, e.item = some item ∧ Item.write item = .ok pieces ∧
        e.write = ⟨e.piecesBefore ++ fieldPieces "item" pieces ++ e.piecesAfter, none⟩) ∨
      ∃ reason, e.write = ⟨e.piecesBefore ++ fieldPieces "item" [], some reason⟩ := by
  cases hitem : e.item with
  | none => exact .inl ⟨rfl, by simp only [write, hitem]⟩
  | some item =>
    cases hwrite : Item.write item with
    | ok pieces => exact .inr (.inl ⟨item, pieces, rfl, hwrite, write_of_item hitem hwrite⟩)
    | error reason => exact .inr (.inr ⟨reason, by simp only [write, hitem, hwrite]⟩)

/-- An event is read member by member. -/
theorem read_cons (s : List Char) :
    (read ('\x7b' :: s) : Except Json.Fault (Event α × List Char)) =
      (readMembers true Draft.empty s).mapError placeInObject := by
  rw [read, Json.skipSpace_cons (by decide)]
  rfl

theorem mapError_eq_ok_iff {ε ε' β : Type} {x : Except ε β} {f : ε → ε'} {b : β} :
    x.mapError f = .ok b ↔ x = .ok b := by
  cases x <;> simp [Except.mapError]

theorem parse_of_readMembers {e' : Event α} {s : List Char}
    (h : readMembers true Draft.empty s = .ok (e', [])) : parse ('\x7b' :: s) = .ok e' := by
  rw [parse, read_cons, h]
  rfl

/-- An event without an item is read back. -/
theorem parse_of_no_item (hrange : e.InRange) (hitem : e.item = none) :
    parse e.write.pieces.flatten = .ok e := by
  have hwrite : e.write = ⟨e.piecesBefore ++ e.piecesAfter, none⟩ := by simp only [write, hitem]
  obtain ⟨s, hs, hbefore⟩ := readMembers_piecesBefore hrange.id e.piecesAfter.flatten
  have hafter := readMembers_piecesAfter hrange none []
  rw [List.append_nil] at hafter
  rw [hwrite, List.flatten_append, hs, parse_of_readMembers (hbefore.trans hafter),
    Option.join_none, ← hitem]

/-- **An event whose item has been written is read back** with what is read of the item. -/
theorem parse_of_item (hrange : e.InRange) {item : α} {pieces : List (List Char)} {o : Option α}
    (hitem : e.item = some item) (hpieces : Item.write item = .ok pieces)
    (hread : Json.readOption Item.read (pieces.flatten ++ e.piecesAfter.flatten) =
      .ok (o, e.piecesAfter.flatten)) :
    parse e.write.pieces.flatten = .ok { e with item := o } := by
  obtain ⟨s, hs, hbefore⟩ := readMembers_piecesBefore hrange.id
    ((fieldPieces "item" pieces).flatten ++ e.piecesAfter.flatten)
  have hfield : readField .item e.draftBefore (pieces.flatten ++ e.piecesAfter.flatten) =
      .ok ({ e.draftBefore with item := some o }, e.piecesAfter.flatten) := by
    rw [readField, hread]
    rfl
  have hmember := readMembers_fieldPieces .item pieces rfl hfield
  have hafter := readMembers_piecesAfter hrange (some o) []
  rw [List.append_nil] at hafter
  rw [write_of_item hitem hpieces, List.flatten_append, List.flatten_append, List.append_assoc, hs]
  exact parse_of_readMembers (hbefore.trans (hmember.trans hafter))

/-- **An event that is written is read back**, field for field. -/
theorem parse_of_write (faithful : Item.Faithful α) (hrange : e.InRange)
    (hwritten : e.write.refusal = none) : parse e.write.pieces.flatten = .ok e := by
  rcases e.write_cases with ⟨hitem, -⟩ | ⟨item, pieces, hitem, hpieces, -⟩ | ⟨_, hwrite⟩
  · exact parse_of_no_item hrange hitem
  · rw [parse_of_item hrange hitem hpieces (faithful.reads hpieces e.endsNumber_piecesAfter),
      ← hitem]
  · rw [hwrite] at hwritten
    cases hwritten

/-! ### An item that is not read -/

/-- A fault in the item is a fault of the event. -/
theorem parse_of_item_error (hid : e.id < UInt64.size) {value : List (List Char)} {r : List Char}
    {fault : Json.Fault}
    (hread : Json.readOption (Item.read : List Char → Except Json.Fault (α × List Char))
      (value.flatten ++ r) = .error fault) :
    (parse ((e.piecesBefore ++ fieldPieces "item" value).flatten ++ r) :
      Except Json.Fault (Event α)) = .error (placeInObject fault) := by
  obtain ⟨s, hs, hbefore⟩ := readMembers_piecesBefore (e := e) hid
    ((fieldPieces "item" value).flatten ++ r)
  have hfield : readField .item e.draftBefore (value.flatten ++ r) = .error fault := by
    rw [readField, hread]
    rfl
  have hmember : readMembers false e.draftBefore ((fieldPieces "item" value).flatten ++ r) =
      .error fault := by
    rw [readMembers_of_key (nextKey_fieldPieces "item" value r) (Field.ofName?_name .item) rfl
      (Json.readColon_cons _), hfield]
    rfl
  rw [List.flatten_append, List.append_assoc, hs, parse, read_cons, hbefore, hmember]
  rfl

/-- **An event whose item was refused is no event**, if no item can be read from what follows. -/
theorem parse_of_refusal {reason : String} (hrefused : e.write.refusal = some reason)
    (hid : e.id < UInt64.size) {r : List Char} {fault : Json.Fault}
    (hitem : Json.readOption (Item.read : List Char → Except Json.Fault (α × List Char)) r =
      .error fault) :
    ∃ fault, (parse (e.write.pieces.flatten ++ r) : Except Json.Fault (Event α)) =
      .error fault := by
  rcases e.write_cases with ⟨-, hwrite⟩ | ⟨_, _, -, -, hwrite⟩ | ⟨_, hwrite⟩
  · simp [hwrite] at hrefused
  · simp [hwrite] at hrefused
  · exact ⟨placeInObject fault, by rw [hwrite]; exact parse_of_item_error hid hitem⟩

/-- Nothing is read from an empty text. -/
theorem exists_readOption_nil :
    ∃ fault, Json.readOption (Item.read : List Char → Except Json.Fault (α × List Char)) [] =
      .error fault := by
  cases hread : (Item.read [] : Except Json.Fault (α × List Char)) with
  | error fault =>
    refine ⟨fault, ?_⟩
    rw [Json.readOption, show Json.skipSpace [] = [] from rfl]
    simp only [hread]
  | ok read => exact absurd (Item.length_lt_of_read hread) (Nat.not_lt_zero _)

/-! ### One line -/

theorem lineFeed_notMem_keyPieces (name : String) : '\n' ∉ (keyPieces name).flatten := by
  rw [keyPieces, List.flatten_append]
  exact List.not_mem_append (Json.lineFeed_notMem_stringPieces _) (by decide)

theorem lineFeed_notMem_fieldPieces (name : String) {value : List (List Char)}
    (h : '\n' ∉ value.flatten) : '\n' ∉ (fieldPieces name value).flatten := by
  rw [fieldPieces, List.cons_append, List.flatten_cons, List.flatten_append]
  exact List.not_mem_append (by decide) (List.not_mem_append (lineFeed_notMem_keyPieces name) h)

theorem lineFeed_notMem_optionalPieces (name : String) (value : Option Nat) :
    '\n' ∉ (optionalPieces name value).flatten := by
  cases value with
  | none => exact List.not_mem_nil
  | some n =>
    exact lineFeed_notMem_fieldPieces name
      (by rw [List.flatten_singleton]; exact Json.lineFeed_notMem_decimal n)

omit [Item α] in
theorem lineFeed_notMem_piecesBefore (e : Event α) : '\n' ∉ e.piecesBefore.flatten := by
  have hid : '\n' ∉ (['\x7b'] :: keyPieces "id" ++ [Text.decimal e.id]).flatten := by
    rw [List.flatten_append, List.flatten_cons, List.flatten_singleton]
    exact List.not_mem_append (List.not_mem_append (by decide) (lineFeed_notMem_keyPieces _))
      (Json.lineFeed_notMem_decimal _)
  rw [piecesBefore, List.flatten_append, List.flatten_append]
  exact List.not_mem_append
    (List.not_mem_append hid
      (lineFeed_notMem_fieldPieces _ (Json.lineFeed_notMem_stringPieces _)))
    (lineFeed_notMem_fieldPieces _ (Json.lineFeed_notMem_stringPieces _))

omit [Item α] in
theorem lineFeed_notMem_piecesAfter (e : Event α) : '\n' ∉ e.piecesAfter.flatten := by
  have haccepted : '\n' ∉ ([(if e.accepted then "true" else "false").toList] : List _).flatten := by
    cases e.accepted <;> decide
  have hatMicros : '\n' ∉ ([Text.decimal e.atMicros] : List _).flatten := by
    rw [List.flatten_singleton]
    exact Json.lineFeed_notMem_decimal _
  rw [piecesAfter, List.flatten_append, List.flatten_append, List.flatten_append,
    List.flatten_append]
  exact List.not_mem_append
    (List.not_mem_append
      (List.not_mem_append
        (List.not_mem_append (lineFeed_notMem_optionalPieces _ _)
          (lineFeed_notMem_optionalPieces _ _))
        (lineFeed_notMem_fieldPieces _ haccepted))
      (lineFeed_notMem_fieldPieces _ hatMicros))
    (by decide)

/-- An event takes one line if its item does. -/
theorem lineFeed_notMem_write_of_item (e : Event α)
    (h : ∀ item pieces, e.item = some item → Item.write item = .ok pieces → '\n' ∉ pieces.flatten) :
    '\n' ∉ e.write.pieces.flatten := by
  have hbefore := e.lineFeed_notMem_piecesBefore
  have hafter := e.lineFeed_notMem_piecesAfter
  rcases e.write_cases with ⟨-, hwrite⟩ | ⟨item, pieces, hitem, hpieces, hwrite⟩ | ⟨_, hwrite⟩
  · rw [hwrite, List.flatten_append]
    exact List.not_mem_append hbefore hafter
  · rw [hwrite, List.flatten_append, List.flatten_append]
    exact List.not_mem_append (List.not_mem_append hbefore
      (lineFeed_notMem_fieldPieces _ (h item pieces hitem hpieces))) hafter
  · rw [hwrite, List.flatten_append]
    exact List.not_mem_append hbefore (lineFeed_notMem_fieldPieces _ List.not_mem_nil)

/-- **An event takes one line**, however much of it has been written. -/
theorem lineFeed_notMem_write (faithful : Item.Faithful α) (e : Event α) :
    '\n' ∉ e.write.pieces.flatten :=
  e.lineFeed_notMem_write_of_item fun _ _ _ hpieces ↦ faithful.oneLine hpieces

/-- What has been written of an event begins with a brace. -/
theorem exists_write_eq_cons (e : Event α) : ∃ s, e.write.pieces.flatten = '\x7b' :: s := by
  rcases e.write_cases with ⟨-, hwrite⟩ | ⟨_, _, -, -, hwrite⟩ | ⟨_, hwrite⟩ <;>
    exact ⟨_, by rw [hwrite]; rfl⟩

/-- An event that is written ends with a brace. -/
theorem getLast?_write (hwritten : e.write.refusal = none) :
    e.write.pieces.flatten.getLast? = some '\x7d' := by
  have hafter : e.piecesAfter.flatten.getLast? = some '\x7d' := by
    rw [piecesAfter, List.flatten_append, List.getLast?_append]
    rfl
  rcases e.write_cases with ⟨-, hwrite⟩ | ⟨_, _, -, -, hwrite⟩ | ⟨_, hwrite⟩
  · rw [hwrite, List.flatten_append, List.getLast?_append, hafter]
    rfl
  · rw [hwrite, List.flatten_append, List.getLast?_append, hafter]
    rfl
  · rw [hwrite] at hwritten
    cases hwritten

end Event

end QueueJournal
