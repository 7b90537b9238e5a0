import QueueJournal.Proofs.Event.RoundTrip
import QueueJournal.Proofs.Json.Kinds

/-!
# Which well-formed texts are events

An event with a text for its item is read from a well-formed object exactly if every field that
occurs in it occurs once and shows what the event has there, and every field that does not occur is
one that the event lacks (`readMembers_iff`). Members of other names are passed over. From a
well-formed array it is read exactly if there is one element for each field, in their order
(`readArray_iff`).

The fields read so far are compared with the event that comes out at the end: a draft has a field of
the event if putting that field into it changes nothing (`Draft.take`).
-/

namespace QueueJournal.Event

open Json (Form Spells EndsNumber IsBlank Cell KeyedCell)

/-! ### What a form shows -/

/-- The form names the operation: as a string, or as the only key of an object with `null` under
it. -/
def NamesOperation (form : Form) (op : Operation) : Prop :=
  form = .string op.name.toList ∨ form = .object [(op.name.toList, .null)]

/-- The form stands for what the event has in a field. -/
def Shows (e : Event String) : Field → Form → Prop
  | .id, form => form.IsNat e.id
  | .worker, form => form = .string e.worker.toList
  | .operation, form => NamesOperation form e.operation
  | .item, form => (form = .null ∧ e.item = none) ∨ ∃ s, form = .string s.toList ∧ e.item = some s
  | .index, form => (form = .null ∧ e.index = none) ∨ ∃ n, form.IsNat n ∧ e.index = some n
  | .size, form => (form = .null ∧ e.size = none) ∨ ∃ n, form.IsNat n ∧ e.size = some n
  | .accepted, form => form = .bool e.accepted
  | .atMicros, form => form.IsNat e.atMicros

/-- The event has nothing in a field, which may therefore be missing. -/
def Lacks (e : Event String) : Field → Prop
  | .item => e.item = none
  | .index => e.index = none
  | .size => e.size = none
  | _ => False

/-- The draft with a field of the event. -/
def Draft.take (d : Draft String) (e : Event String) : Field → Draft String
  | .id => { d with id := some e.id }
  | .worker => { d with worker := some e.worker }
  | .operation => { d with operation := some e.operation }
  | .item => { d with item := some e.item }
  | .index => { d with index := some e.index }
  | .size => { d with size := some e.size }
  | .accepted => { d with accepted := some e.accepted }
  | .atMicros => { d with atMicros := some e.atMicros }

namespace Draft

variable (d : Draft String) (e e' : Event String)

theorem has_take_self (field : Field) : (d.take e field).has field = true := by
  cases field <;> rfl

theorem has_take_of_ne {field field' : Field} (h : field' ≠ field) :
    (d.take e field).has field' = d.has field' := by
  cases field <;> cases field' <;> first | rfl | exact absurd rfl h

/-- The last event counts. -/
theorem take_take_self (field : Field) : (d.take e' field).take e field = d.take e field := by
  cases field <;> rfl

/-- Whether one field is that of an event does not depend on another. -/
theorem take_take_eq_iff {field field' : Field} (h : field' ≠ field) :
    (d.take e' field).take e field' = d.take e' field ↔ d.take e field' = d := by
  obtain ⟨id, worker, operation, item, index, size, accepted, atMicros⟩ := d
  cases field <;> cases field' <;> first | exact absurd rfl h | simp [take]

end Draft

/-- What a form shows depends on its field only. -/
theorem Shows.congr {e e' : Event String} {d : Draft String} {field : Field} {form : Form}
    (h : d.take e field = d.take e' field) (hshows : e'.Shows field form) : e.Shows field form := by
  obtain ⟨id, worker, operation, item, index, size, accepted, atMicros⟩ := d
  cases field <;>
    simp only [Draft.take, Draft.mk.injEq, Option.some.injEq, and_true, true_and] at h <;>
    simp only [Shows, h] at hshows ⊢ <;>
    exact hshows

/-! ### Operations -/

variable {form : Form} {t r r' w : List Char}

theorem ofName?_eq_some_iff {name : String} {op : Operation} :
    Operation.ofName? name = some op ↔ op.name = name := by
  constructor
  · intro h
    simpa using List.find?_some h
  · rintro rfl
    exact Operation.ofName?_name op

theorem namedOperation_eq_ok_iff {name rest : List Char} {op : Operation} :
    namedOperation name rest = .ok op ↔ name = op.name.toList := by
  have hname : Operation.ofName? (String.ofList name) = some op ↔ name = op.name.toList := by
    rw [ofName?_eq_some_iff]
    constructor
    · intro h
      rw [h, String.toList_ofList]
    · rintro rfl
      rw [String.ofList_toList]
  rw [← hname, namedOperation]
  cases Operation.ofName? (String.ofList name) <;> simp

/-- The key of an operation is read up to the blanks behind it. -/
theorem readOperationKey_line {cell : KeyedCell} (hkeyed : cell.IsKeyed) (s : List Char) :
    readOperationKey (cell.line ++ s) =
      .ok (cell.key, cell.keyBack ++ ':' :: (cell.whole ++ s)) := by
  rw [cell.line_append, readOperationKey, Json.skipSpace_append_cons hkeyed.keyFront (by decide)]
  exact hkeyed.key.readChars _

theorem readNull_whole_iff {cell : Cell} (hpadded : cell.IsPadded)
    (hcell : Spells cell.form cell.text) {s : List Char} :
    Json.readNull (cell.whole ++ r) = .ok s ↔ cell.form = .null ∧ s = cell.back ++ r := by
  have hfront : Json.readNull (cell.whole ++ r) =
      Json.readNull (cell.text ++ (cell.back ++ r)) := by
    rw [Cell.whole, List.append_assoc, List.append_assoc, Json.readNull,
      Json.skipSpace_append hpadded.1, ← Json.readNull]
  rw [hfront, hcell.readNull_iff]

theorem readOperation_object {first : KeyedCell} (hkeyed : first.IsKeyed) (s : List Char) :
    readOperation ('\x7b' :: (first.line ++ s)) = (do
      let op ← namedOperation first.key (first.keyBack ++ ':' :: (first.whole ++ s))
      let rest ← Json.readNull (first.whole ++ s)
      let rest ← closeOperation rest
      return (op, rest)) := by
  rw [readOperation, Json.skipSpace_cons (by decide)]
  simp only [readOperationKey_line hkeyed, bind, Except.bind, Json.readColon_append hkeyed.keyBack]

theorem closeOperation_flatMap_iff {others : List KeyedCell} (hw : IsBlank w) {s : List Char} :
    closeOperation (w ++ ((others.flatMap fun cell ↦ ',' :: cell.line) ++ '\x7d' :: r)) = .ok s ↔
      others = [] ∧ s = r := by
  cases others with
  | nil =>
    have hclose : closeOperation (w ++ '\x7d' :: r) = .ok r := by
      rw [closeOperation, Json.skipSpace_append_cons hw (by decide)]
      exact if_pos rfl
    rw [List.flatMap_nil, List.nil_append, hclose]
    exact ⟨fun h ↦ ⟨rfl, (Except.ok.inj h).symm⟩, fun h ↦ h.2 ▸ rfl⟩
  | cons cell others =>
    rw [List.flatMap_cons, List.cons_append, List.cons_append, closeOperation,
      Json.skipSpace_append_cons hw (by decide)]
    exact iff_of_false (fun h ↦ by cases h) fun h ↦ List.cons_ne_nil _ _ h.1

theorem readOperation_string_iff {s : List Char} (h : Json.SpellsChars s t) {op : Operation} :
    readOperation ('"' :: (t ++ '"' :: r)) = .ok (op, r') ↔ s = op.name.toList ∧ r' = r := by
  have hread : readOperation ('"' :: (t ++ '"' :: r)) = (do
      let op ← namedOperation s r
      return (op, r)) := by
    rw [readOperation, Json.skipSpace_cons (by decide)]
    simp only [h.readChars, bind, Except.bind]
  rw [hread]
  constructor
  · intro h
    obtain ⟨op', hop, h⟩ := Json.bind_eq_ok h
    obtain ⟨rfl, rfl⟩ := Prod.mk.inj (Except.ok.inj h)
    exact ⟨namedOperation_eq_ok_iff.1 hop, rfl⟩
  · rintro ⟨hname, rfl⟩
    rw [namedOperation_eq_ok_iff.2 hname]
    rfl

theorem readOperation_object_iff {first : KeyedCell} {others : List KeyedCell}
    (hkeyed : first.IsKeyed) (hcell : Spells first.form first.text) {op : Operation} :
    readOperation ('\x7b' :: (first.line ++
        ((others.flatMap fun cell ↦ ',' :: cell.line) ++ '\x7d' :: r))) = .ok (op, r') ↔
      (first.key = op.name.toList ∧ first.form = .null ∧ others = []) ∧ r' = r := by
  rw [readOperation_object hkeyed]
  constructor
  · intro h
    obtain ⟨op', hop, h⟩ := Json.bind_eq_ok h
    obtain ⟨rest, hvalue, h⟩ := Json.bind_eq_ok h
    obtain ⟨rest', hclose, h⟩ := Json.bind_eq_ok h
    obtain ⟨rfl, rfl⟩ := Prod.mk.inj (Except.ok.inj h)
    obtain ⟨hform, rfl⟩ := (readNull_whole_iff hkeyed.padded hcell).1 hvalue
    obtain ⟨hothers, hrest⟩ := (closeOperation_flatMap_iff hkeyed.padded.2).1 hclose
    exact ⟨⟨namedOperation_eq_ok_iff.1 hop, hform, hothers⟩, hrest⟩
  · rintro ⟨⟨hname, hform, rfl⟩, rfl⟩
    have hvalue := (readNull_whole_iff hkeyed.padded hcell (r := '\x7d' :: r')).2 ⟨hform, rfl⟩
    have hclose := (@closeOperation_flatMap_iff r' _ [] hkeyed.padded.2 r').2 ⟨rfl, rfl⟩
    rw [List.flatMap_nil, List.nil_append] at hclose ⊢
    rw [namedOperation_eq_ok_iff.2 hname, hvalue]
    simp only [bind, Except.bind, hclose]
    rfl

theorem readOperation_emptyObject (hw : IsBlank w) (r : List Char) (op : Operation) :
    readOperation ('\x7b' :: (w ++ '\x7d' :: r)) ≠ .ok (op, r') := by
  have hkey : readOperationKey (w ++ '\x7d' :: r) = .error (.onNext .noValue ('\x7d' :: r)) := by
    rw [readOperationKey, Json.skipSpace_append_cons hw (by decide)]
    rfl
  rw [readOperation, Json.skipSpace_cons (by decide)]
  simp only [hkey, bind, Except.bind]
  exact fun h ↦ by cases h

theorem quote_or_brace_of_readOperation {c : Char} {s : List Char} {op : Operation}
    (hspace : Json.isSpace c = false) (h : readOperation (c :: s) = .ok (op, r)) :
    c = '"' ∨ c = '\x7b' := by
  rw [readOperation, Json.skipSpace_cons hspace] at h
  split at h
  case h_1 heq => cases heq
  case h_2 heq => exact .inl (List.cons.inj heq).1
  case h_3 heq => exact .inr (List.cons.inj heq).1
  case h_4 => cases h

/-- **An operation is read exactly from a form that names it.** -/
theorem readOperation_iff (h : Spells form t) {op : Operation} :
    readOperation (t ++ r) = .ok (op, r') ↔ NamesOperation form op ∧ r' = r := by
  obtain ⟨c, s, hs, hbegins⟩ := h.exists_begins
  -- The forms that do not begin in one of these ways name no operation.
  have hother (hc : ¬ (c = '"' ∨ c = '\x7b')) (hnames : ¬ NamesOperation form op) :
      readOperation (t ++ r) = .ok (op, r') ↔ NamesOperation form op ∧ r' = r := by
    refine iff_of_false (fun hread ↦ hc ?_) fun h ↦ hnames h.1
    rw [hs, List.cons_append] at hread
    exact quote_or_brace_of_readOperation hbegins.isSpace_eq_false hread
  cases hbegins with
  | string =>
    cases h with | string h =>
    rw [List.cons_append, List.append_assoc, List.singleton_append, readOperation_string_iff h]
    simp [NamesOperation]
  | object =>
    cases h with
    | emptyObject hw =>
      rw [List.cons_append, List.append_assoc, List.singleton_append]
      simp [NamesOperation, readOperation_emptyObject hw]
    | @object first others hkeyed hcells =>
      rw [List.cons_append, List.append_assoc, List.append_assoc, List.singleton_append,
        readOperation_object_iff (hkeyed first List.mem_cons_self)
          (hcells first List.mem_cons_self)]
      simp [NamesOperation, KeyedCell.member, and_assoc]
  | number hc => exact hother (by rintro (rfl | rfl) <;> cases hc) (by simp [NamesOperation])
  | _ => exact hother (by decide) (by simp [NamesOperation])

/-! ### Fields -/

theorem readField_append (hw : IsBlank w) (field : Field) (d : Draft String) (s : List Char) :
    readField field d (w ++ s) = readField field d s := by
  cases field <;>
    simp only [readField, Json.readNat, Json.readInteger, Json.readString, readOperation,
      Json.readOption, Json.readBool, Json.skipSpace_append hw]

/-- Any event will do where only one field counts. -/
def sample : Event String :=
  .close ⟨0, 0⟩ ""

/-- A reader of one field's values reads that field, if every value is that of some event. -/
theorem readInto_iff {α : Type} {read : Except Json.Fault (α × List Char)} {shows : α → Prop}
    {field : Field} {d d' : Draft String} (get : Event String → α) (put : α → Draft String)
    (hread : ∀ {a}, read = .ok (a, r') ↔ shows a ∧ r' = r) (hget : ∀ a, ∃ e, get e = a)
    (hput : ∀ e, put (get e) = d.take e field) :
    (do let (a, r) ← read; return (put a, r)) = (.ok (d', r') : Except Json.Fault _) ↔
      (∃ e, shows (get e) ∧ d.take e field = d') ∧ r' = r := by
  constructor
  · intro h
    obtain ⟨⟨a, rest⟩, ha, h⟩ := Json.bind_eq_ok h
    obtain ⟨rfl, rfl⟩ := Prod.mk.inj (Except.ok.inj h)
    obtain ⟨hshows, hrest⟩ := hread.1 ha
    obtain ⟨e, rfl⟩ := hget a
    exact ⟨⟨e, hshows, (hput e).symm⟩, hrest⟩
  · rintro ⟨⟨e, hshows, rfl⟩, hrest⟩
    rw [hread.2 ⟨hshows, hrest⟩, ← hput e]
    rfl

theorem readText_iff (h : Spells form t) {a : String} :
    Item.read (t ++ r) = .ok (a, r') ↔ form = .string a.toList ∧ r' = r := by
  have hread : (Item.read (t ++ r) : Except Json.Fault (String × List Char)) =
      Item.mapRead String.ofList (Json.readString "a string" (t ++ r)) := rfl
  rw [hread]
  constructor
  · intro h'
    obtain ⟨cs, hcs⟩ := Item.mapRead_eq_ok h'
    rw [hcs] at h'
    obtain ⟨rfl, -⟩ := Prod.mk.inj (Except.ok.inj h')
    rw [String.toList_ofList]
    exact h.readString_iff.1 hcs
  · intro h'
    rw [h.readString_iff.2 h']
    exact Item.mapRead_of_eq rfl String.ofList_toList

theorem readText?_iff (h : Spells form t) {o : Option String} :
    Json.readOption Item.read (t ++ r) = .ok (o, r') ↔
      ((form = .null ∧ o = none) ∨ ∃ s, form = .string s.toList ∧ o = some s) ∧ r' = r := by
  rw [h.readOption_iff]
  simp only [readText_iff h]
  constructor
  · rintro (⟨hnull, ho, hr⟩ | ⟨-, s, ho, hs, hr⟩)
    · exact ⟨.inl ⟨hnull, ho⟩, hr⟩
    · exact ⟨.inr ⟨s, hs, ho⟩, hr⟩
  · rintro ⟨⟨hnull, ho⟩ | ⟨s, hs, ho⟩, hr⟩
    · exact .inl ⟨hnull, ho, hr⟩
    · exact .inr ⟨by rw [hs]; exact Form.noConfusion, s, ho, hs, hr⟩

theorem readNat?_iff (h : Spells form t) (hr : EndsNumber r) {o : Option Nat} :
    Json.readOption (Json.readNat "usize") (t ++ r) = .ok (o, r') ↔
      ((form = .null ∧ o = none) ∨ ∃ n, form.IsNat n ∧ o = some n) ∧ r' = r := by
  rw [h.readOption_iff]
  simp only [h.readNat_iff hr]
  constructor
  · rintro (⟨hnull, ho, hr⟩ | ⟨-, n, ho, hn, hr⟩)
    · exact ⟨.inl ⟨hnull, ho⟩, hr⟩
    · exact ⟨.inr ⟨n, hn, ho⟩, hr⟩
  · rintro ⟨⟨hnull, ho⟩ | ⟨n, hn, ho⟩, hr⟩
    · exact .inl ⟨hnull, ho, hr⟩
    · exact .inr ⟨by rw [hn.1]; exact Form.noConfusion, n, ho, hn, hr⟩

/-- **A field is read exactly from a form that shows it.** -/
theorem readField_iff (h : Spells form t) (hr : EndsNumber r) {field : Field}
    {d d' : Draft String} :
    readField field d (t ++ r) = .ok (d', r') ↔
      (∃ e : Event String, e.Shows field form ∧ d.take e field = d') ∧ r' = r := by
  cases field <;> rw [readField]
  case id =>
    exact readInto_iff Event.id (fun n ↦ { d with id := some n }) (h.readNat_iff hr)
      (fun n ↦ ⟨{ sample with id := n }, rfl⟩) fun _ ↦ rfl
  case worker =>
    exact readInto_iff (fun e ↦ e.worker.toList)
      (fun cs ↦ { d with worker := some (String.ofList cs) }) h.readString_iff
      (fun cs ↦ ⟨{ sample with worker := String.ofList cs }, String.toList_ofList⟩)
      fun e ↦ by rw [String.ofList_toList]; rfl
  case operation =>
    exact readInto_iff Event.operation (fun op ↦ { d with operation := some op })
      (readOperation_iff h) (fun op ↦ ⟨{ sample with operation := op }, rfl⟩) fun _ ↦ rfl
  case item =>
    exact readInto_iff Event.item (fun o ↦ { d with item := some o }) (readText?_iff h)
      (fun o ↦ ⟨{ sample with item := o }, rfl⟩) fun _ ↦ rfl
  case index =>
    exact readInto_iff Event.index (fun o ↦ { d with index := some o }) (readNat?_iff h hr)
      (fun o ↦ ⟨{ sample with index := o }, rfl⟩) fun _ ↦ rfl
  case size =>
    exact readInto_iff Event.size (fun o ↦ { d with size := some o }) (readNat?_iff h hr)
      (fun o ↦ ⟨{ sample with size := o }, rfl⟩) fun _ ↦ rfl
  case accepted =>
    exact readInto_iff Event.accepted (fun b ↦ { d with accepted := some b }) h.readBool_iff
      (fun b ↦ ⟨{ sample with accepted := b }, rfl⟩) fun _ ↦ rfl
  case atMicros =>
    exact readInto_iff Event.atMicros (fun n ↦ { d with atMicros := some n }) (h.readNat_iff hr)
      (fun n ↦ ⟨{ sample with atMicros := n }, rfl⟩) fun _ ↦ rfl

end QueueJournal.Event
