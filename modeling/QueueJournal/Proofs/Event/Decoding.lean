import QueueJournal.Proofs.Event.Fields

/-!
# Which well-formed texts are events

An event with a text for its item is read from a well-formed object exactly if no field occurs more
than once, every field that occurs shows what the event has there, and the event lacks those that do
not occur (`Spells.readEvent_object_iff`). Members of other names are passed over, so they may be
repeated and say anything. A well-formed array is an event exactly if the object with its elements
under the names of the eight fields is one (`Spells.readEvent_array_iff`).

Which objects these are can be told without an event (`exists_decodes_iff`): the fields that are
required occur, none occurs twice, and whatever occurs fits its field.

The induction is on the members, and it carries what has been read so far: a field that the draft
has must be that of the event, and must not occur any more (`Settles`).
-/

namespace QueueJournal.Event

open Json (Form Spells EndsNumber IsBlank Cell KeyedCell)

/-! ### What an object decodes to -/

/-- The members of an object, in their order. -/
abbrev Members : Type :=
  List (List Char × Form)

/-- The forms under the name of a field, in their order. -/
def formsOf (field : Field) (members : Members) : List Form :=
  members.filterMap fun (key, form) ↦ if key = field.name.toList then some form else none

/-- The members show the event, field for field. -/
structure Decodes (members : Members) (e : Event String) : Prop where
  /-- A field that occurs shows what the event has there. -/
  shown : ∀ field, ∀ form ∈ formsOf field members, e.Shows field form
  /-- A field that does not occur is one that the event lacks. -/
  lacking : ∀ field, formsOf field members = [] → e.Lacks field

/-- The field may not be missing. -/
def Field.IsRequired : Field → Prop
  | .item | .index | .size => False
  | _ => True

/-- The form is a value of the field. -/
def Field.Fits : Field → Form → Prop
  | .id, form => ∃ n, form.IsNat n
  | .worker, form => ∃ s, form = .string s
  | .operation, form => ∃ op, NamesOperation form op
  | .item, form => form = .null ∨ ∃ s, form = .string s
  | .index, form => form = .null ∨ ∃ n, form.IsNat n
  | .size, form => form = .null ∨ ∃ n, form.IsNat n
  | .accepted, form => ∃ b, form = .bool b
  | .atMicros, form => ∃ n, form.IsNat n

/-- The members are those of an event. -/
structure Acceptable (members : Members) : Prop where
  /-- No field occurs more than once. -/
  once : ∀ field, (formsOf field members).length ≤ 1
  /-- Every field that is required occurs. -/
  required : ∀ field : Field, field.IsRequired → formsOf field members ≠ []
  /-- Every field that occurs has a value that fits. -/
  fitting : ∀ field, ∀ form ∈ formsOf field members, field.Fits form

/-! ### One field after the other -/

variable {e e' : Event String} {d : Draft String} {field field' : Field} {form : Form}
  {forms : List Form} {members : Members} {key t r r' w : List Char}

/-- What an event has in a field is that of the draft, if the draft has it, and the field does not
occur any more; else the field occurs once and shows it, or is missing. -/
def Settles (d : Draft String) (e : Event String) (field : Field) (forms : List Form) : Prop :=
  if d.has field then d.take e field = d ∧ forms = []
  else forms.length ≤ 1 ∧ (∀ form ∈ forms, e.Shows field form) ∧ (forms = [] → e.Lacks field)

/-- The members complete the draft to the event. -/
def Completes (d : Draft String) (members : Members) (e : Event String) : Prop :=
  ∀ field, Settles d e field (formsOf field members)

theorem formsOf_cons_self (field : Field) (form : Form) (members : Members) :
    formsOf field ((field.name.toList, form) :: members) = form :: formsOf field members := by
  simp [formsOf]

theorem formsOf_cons_of_ne (h : key ≠ field.name.toList) (form : Form) (members : Members) :
    formsOf field ((key, form) :: members) = formsOf field members := by
  simp [formsOf, h]

theorem Field.ofName?_eq_some_iff {name : List Char} :
    Field.ofName? (String.ofList name) = some field ↔ name = field.name.toList := by
  constructor
  · intro h
    have hname : field.name = String.ofList name := by simpa using List.find?_some h
    rw [hname, String.toList_ofList]
  · rintro rfl
    rw [String.ofList_toList, Field.ofName?_name]

theorem Field.name_toList_inj (h : field.name.toList = field'.name.toList) : field = field' := by
  have hfield := Field.ofName?_eq_some_iff.2 h
  rw [String.ofList_toList, Field.ofName?_name] at hfield
  exact Option.some.inj hfield

theorem settles_take_self :
    Settles (d.take e field) e field forms ↔ forms = [] := by
  simp [Settles, Draft.has_take_self, Draft.take_take_self]

theorem settles_take_of_ne (h : field' ≠ field) :
    Settles (d.take e' field) e field' forms ↔ Settles d e field' forms := by
  rw [Settles, Settles, Draft.has_take_of_ne d e' h, Draft.take_take_eq_iff d e e' h]

theorem settles_cons (hnew : d.has field = false) :
    Settles d e field (form :: forms) ↔ e.Shows field form ∧ forms = [] := by
  cases forms <;> simp [Settles, hnew]

/-- A member of another name does not matter. -/
theorem completes_cons_of_unknown (hkey : Field.ofName? (String.ofList key) = none) :
    Completes d ((key, form) :: members) e ↔ Completes d members e := by
  refine forall_congr' fun field ↦ ?_
  rw [formsOf_cons_of_ne]
  rintro rfl
  rw [Field.ofName?_eq_some_iff.2 rfl] at hkey
  cases hkey

/-- A field that has been read must not occur again. -/
theorem not_completes_cons_of_has (hhas : d.has field = true) :
    ¬ Completes d ((field.name.toList, form) :: members) e := by
  intro h
  have hself := h field
  rw [formsOf_cons_self, Settles, if_pos hhas] at hself
  cases hself.2

/-- **A field that has not been read shows what the event has there**, and is then taken. -/
theorem completes_cons_iff (hnew : d.has field = false) :
    Completes d ((field.name.toList, form) :: members) e ↔
      e.Shows field form ∧ Completes (d.take e field) members e := by
  have hother : ∀ field', field' ≠ field →
      (Settles d e field' (formsOf field' ((field.name.toList, form) :: members)) ↔
        Settles (d.take e field) e field' (formsOf field' members)) := fun field' hne ↦ by
    rw [formsOf_cons_of_ne fun h ↦ hne (Field.name_toList_inj h.symm), settles_take_of_ne hne]
  constructor
  · intro h
    have hself := h field
    rw [formsOf_cons_self, settles_cons hnew] at hself
    refine ⟨hself.1, fun field' ↦ ?_⟩
    by_cases hne : field' = field
    · rw [hne, settles_take_self]
      exact hself.2
    · exact (hother field' hne).1 (h field')
  · rintro ⟨hshows, h⟩ field'
    by_cases hne : field' = field
    · have hself := settles_take_self.1 (h field)
      rw [hne, formsOf_cons_self, settles_cons hnew]
      exact ⟨hshows, hself⟩
    · exact (hother field' hne).2 (h field')

/-- It is enough that some event shows the field: if it is taken, the event at the end has it. -/
theorem exists_shows_completes_iff (hnew : d.has field = false) :
    (∃ e', e'.Shows field form ∧ Completes (d.take e' field) members e) ↔
      Completes d ((field.name.toList, form) :: members) e := by
  rw [completes_cons_iff hnew]
  constructor
  · rintro ⟨e', hshows, h⟩
    have htake : d.take e field = d.take e' field := by
      have hself := h field
      rw [Settles, if_pos (Draft.has_take_self d e' field), Draft.take_take_self] at hself
      exact hself.1
    exact ⟨hshows.congr htake, htake ▸ h⟩
  · exact fun ⟨hshows, h⟩ ↦ ⟨e, hshows, h⟩

theorem Field.forall_iff {P : Field → Prop} : (∀ field, P field) ↔ P .id ∧ P .worker ∧
    P .operation ∧ P .item ∧ P .index ∧ P .size ∧ P .accepted ∧ P .atMicros := by
  constructor
  · exact fun h ↦ ⟨h _, h _, h _, h _, h _, h _, h _, h _⟩
  · rintro ⟨_, _, _, _, _, _, _, _⟩ field
    cases field <;> assumption

theorem settles_nil :
    Settles d e field [] ↔ if d.has field = true then d.take e field = d else e.Lacks field := by
  simp [Settles]

/-- **A draft is finished as the event that it is completed to by no more members.** -/
theorem finish_eq_ok_iff : d.finish = .ok e ↔ Completes d [] e := by
  obtain ⟨id, worker, operation, item, index, size, accepted, atMicros⟩ := d
  obtain ⟨_, _, _, _, _, _, _, _⟩ := e
  have hrequired : ∀ {β : Type} {o : Option β} {b : β},
      (if o.isSome = true then some b = o else False) ↔ o = some b := fun {β o b} ↦ by
    cases o <;> simp [eq_comm]
  have hoptional : ∀ {β : Type} {o : Option (Option β)} {b : Option β},
      (if o.isSome = true then some b = o else b = none) ↔ o.join = b := fun {β o b} ↦ by
    cases o <;> simp [eq_comm]
  have hnil : ∀ field, formsOf field [] = [] := fun _ ↦ rfl
  rw [Completes, Field.forall_iff]
  simp only [hnil, settles_nil, Draft.has, Draft.take, Draft.mk.injEq, and_true, true_and, Lacks,
    hrequired, hoptional]
  unfold Draft.finish
  split <;> simp_all

theorem completes_empty_iff : Completes Draft.empty members e ↔
    (∀ field, (formsOf field members).length ≤ 1) ∧ Decodes members e := by
  have hnew : ∀ field, Draft.empty.has (α := String) field = false := fun field ↦ by
    cases field <;> rfl
  simp only [Completes, Settles, hnew, Bool.false_eq_true, if_false]
  constructor
  · exact fun h ↦ ⟨fun field ↦ (h field).1, fun field ↦ (h field).2.1, fun field ↦ (h field).2.2⟩
  · exact fun ⟨honce, hdecodes⟩ field ↦ ⟨honce field, hdecodes.shown field, hdecodes.lacking field⟩

/-! ### Objects that hold an event -/

/-- What an event shows fits. -/
theorem Shows.fits (h : e.Shows field form) : field.Fits form := by
  cases field
  case id | worker | operation | accepted | atMicros => exact ⟨_, h⟩
  case item => exact h.imp And.left fun ⟨s, hs, _⟩ ↦ ⟨s.toList, hs⟩
  case index | size => exact h.imp And.left fun ⟨n, hn, _⟩ ↦ ⟨n, hn⟩

/-- What fits is shown by some event. -/
theorem Field.Fits.exists_shows (h : field.Fits form) : ∃ e : Event String, e.Shows field form := by
  cases field
  case id =>
    obtain ⟨n, hn⟩ := h
    exact ⟨{ sample with id := n }, hn⟩
  case worker =>
    obtain ⟨s, hs⟩ := h
    exact ⟨{ sample with worker := String.ofList s }, by rw [Shows, hs, String.toList_ofList]⟩
  case operation =>
    obtain ⟨op, hop⟩ := h
    exact ⟨{ sample with operation := op }, hop⟩
  case item =>
    rcases h with hnull | ⟨s, hs⟩
    · exact ⟨{ sample with item := none }, .inl ⟨hnull, rfl⟩⟩
    · exact ⟨{ sample with item := some (String.ofList s) },
        .inr ⟨String.ofList s, by rw [hs, String.toList_ofList], rfl⟩⟩
  case index =>
    rcases h with hnull | ⟨n, hn⟩
    · exact ⟨{ sample with index := none }, .inl ⟨hnull, rfl⟩⟩
    · exact ⟨{ sample with index := some n }, .inr ⟨n, hn, rfl⟩⟩
  case size =>
    rcases h with hnull | ⟨n, hn⟩
    · exact ⟨{ sample with size := none }, .inl ⟨hnull, rfl⟩⟩
    · exact ⟨{ sample with size := some n }, .inr ⟨n, hn, rfl⟩⟩
  case accepted =>
    obtain ⟨b, hb⟩ := h
    exact ⟨{ sample with accepted := b }, hb⟩
  case atMicros =>
    obtain ⟨n, hn⟩ := h
    exact ⟨{ sample with atMicros := n }, hn⟩

theorem lacks_sample (h : ¬ field.IsRequired) : sample.Lacks field := by
  cases field <;> first | rfl | exact absurd trivial h

theorem Lacks.not_isRequired (h : e.Lacks field) : ¬ field.IsRequired := by
  cases field <;> first | exact h.elim | exact fun h ↦ h

/-- The event that has each field from an event of its own. -/
def assemble (parts : Field → Event String) : Event String where
  id := (parts .id).id
  worker := (parts .worker).worker
  operation := (parts .operation).operation
  item := (parts .item).item
  index := (parts .index).index
  size := (parts .size).size
  accepted := (parts .accepted).accepted
  atMicros := (parts .atMicros).atMicros

theorem shows_assemble (parts : Field → Event String) :
    (assemble parts).Shows field form ↔ (parts field).Shows field form := by
  cases field <;> rfl

theorem lacks_assemble (parts : Field → Event String) :
    (assemble parts).Lacks field ↔ (parts field).Lacks field := by
  cases field <;> rfl

/-- **Which objects hold an event** can be told field by field. -/
theorem exists_decodes_iff :
    (∃ e, (∀ field, (formsOf field members).length ≤ 1) ∧ Decodes members e) ↔
      Acceptable members := by
  constructor
  · rintro ⟨e, honce, hdecodes⟩
    exact {
      once := honce
      required := fun field hrequired hnone ↦
        (hdecodes.lacking field hnone).not_isRequired hrequired
      fitting := fun field form hform ↦ (hdecodes.shown field form hform).fits }
  · intro h
    have hpart : ∀ field, ∃ e : Event String, (∀ form ∈ formsOf field members, e.Shows field form) ∧
        (formsOf field members = [] → e.Lacks field) := fun field ↦ by
      have honce := h.once field
      cases hforms : formsOf field members with
      | nil =>
        have hmissing := lacks_sample fun hrequired ↦ h.required field hrequired hforms
        exact ⟨sample, List.forall_mem_nil _, fun _ ↦ hmissing⟩
      | cons form forms =>
        rw [hforms, List.length_cons] at honce
        obtain rfl := List.length_eq_zero_iff.1 (Nat.le_zero.1 (Nat.le_of_succ_le_succ honce))
        obtain ⟨e, he⟩ := (h.fitting field form (hforms ▸ List.mem_cons_self)).exists_shows
        exact ⟨e, List.forall_mem_singleton.2 he, fun hnone ↦ by cases hnone⟩
    -- The parts need not agree: of each, only the one field counts.
    choose parts hshown hlacking using hpart
    exact ⟨assemble parts, h.once, fun field form hform ↦
      (shows_assemble parts).2 (hshown field form hform), fun field hnone ↦
      (lacks_assemble parts).2 (hlacking field hnone)⟩

/-! ### Objects -/

theorem readMembers_of_end {first : Bool} {s : List Char}
    (hkey : Json.nextKey first s = .ok (.done r)) :
    readMembers first d s = .ok (e, r') ↔ Completes d [] e ∧ r' = r := by
  rw [← finish_eq_ok_iff]
  constructor
  · intro h
    rw [readMembers] at h
    split at h
    case h_1 => cases h
    case h_2 hnext =>
      obtain rfl : r = _ := by simpa [hkey] using hnext
      split at h
      case h_1 hfinish =>
        obtain ⟨rfl, rfl⟩ := Prod.mk.inj (Except.ok.inj h)
        exact ⟨hfinish, rfl⟩
      case h_2 => cases h
    case h_3 hnext => simp [hkey] at hnext
  · rintro ⟨hfinish, rfl⟩
    exact readMembers_of_done hkey hfinish

/-- A member of another name is passed over. -/
theorem readMembers_of_unknown {first : Bool} {s r₁ r₂ : List Char}
    (hkey : Json.nextKey first s = .ok (.more key r))
    (hname : Field.ofName? (String.ofList key) = none) (hcolon : Json.readColon r = .ok r₁)
    (hskip : Json.skip r₁ = .ok r₂) : readMembers first d s = readMembers false d r₂ := by
  rw [readMembers]
  split
  case h_1 hnext => simp [hkey] at hnext
  case h_2 hnext => simp [hkey] at hnext
  case h_3 hnext =>
    obtain ⟨rfl, rfl⟩ : key = _ ∧ r = _ := by simpa [hkey] using hnext
    simp only [hname]
    split
    case h_1 hnone => simp [hcolon] at hnone
    case h_2 hsome =>
      obtain rfl : r₁ = _ := by simpa [hcolon] using hsome
      split
      case h_1 hnone => simp [hskip] at hnone
      case h_2 hsome =>
        obtain rfl : r₂ = _ := by simpa [hskip] using hsome
        rfl

/-- A field that has been read is not read again. -/
theorem readMembers_of_repeated {first : Bool} {s : List Char}
    (hkey : Json.nextKey first s = .ok (.more key r))
    (hname : Field.ofName? (String.ofList key) = some field) (hhas : d.has field = true) :
    readMembers first d s = .error (.unplaced (.repeatedField field.name) r) := by
  rw [readMembers]
  split
  case h_1 hnext => simp [hkey] at hnext
  case h_2 hnext => simp [hkey] at hnext
  case h_3 hnext =>
    obtain ⟨rfl, rfl⟩ : key = _ ∧ r = _ := by simpa [hkey] using hnext
    simp only [hname, hhas, if_true]

theorem readField_whole_iff {cell : Cell} (hpadded : cell.IsPadded)
    (hcell : Spells cell.form cell.text) {s : List Char} (hs : EndsNumber s) {d' : Draft String} :
    readField field d (cell.whole ++ s) = .ok (d', r') ↔
      (∃ e : Event String, e.Shows field cell.form ∧ d.take e field = d') ∧
        r' = cell.back ++ s := by
  rw [Cell.whole, List.append_assoc, List.append_assoc, readField_append hpadded.1,
    readField_iff hcell (Json.endsNumber_append hpadded.2 hs)]

/-- **One member**: the text behind it is read as the members behind it. -/
theorem readMembers_cons_iff {first : Bool} {cell : KeyedCell} (hkeyed : cell.IsKeyed)
    (hcell : Spells cell.form cell.text) {s text : List Char} (hs : EndsNumber s)
    (hkey : Json.nextKey first text =
      .ok (.more cell.key (cell.keyBack ++ ':' :: (cell.whole ++ s))))
    (hrest : ∀ d, readMembers false d (cell.back ++ s) = .ok (e, r') ↔
      Completes d members e ∧ r' = r) :
    readMembers first d text = .ok (e, r') ↔ Completes d (cell.member :: members) e ∧ r' = r := by
  have hcolon := Json.readColon_append hkeyed.keyBack (cell.whole ++ s)
  rw [KeyedCell.member]
  -- The key is no field, or one that has been read, or a new one.
  cases hname : Field.ofName? (String.ofList cell.key) with
  | none =>
    rw [readMembers_of_unknown hkey hname hcolon (Json.skip_whole hkeyed.padded hcell hs), hrest,
      completes_cons_of_unknown hname]
  | some field =>
    cases hhas : d.has field with
    | true =>
      rw [readMembers_of_repeated hkey hname hhas, Field.ofName?_eq_some_iff.1 hname]
      exact iff_of_false (fun h ↦ by cases h) fun h ↦ not_completes_cons_of_has hhas h.1
    | false =>
      rw [readMembers_of_key hkey hname hhas hcolon, Field.ofName?_eq_some_iff.1 hname,
        ← exists_shows_completes_iff hhas]
      constructor
      · intro h
        obtain ⟨⟨d', r₂⟩, hfield, h⟩ := Json.bind_eq_ok h
        obtain ⟨⟨e', hshows, rfl⟩, rfl⟩ := (readField_whole_iff hkeyed.padded hcell hs).1 hfield
        obtain ⟨hcompletes, hr⟩ := (hrest _).1 h
        exact ⟨⟨e', hshows, hcompletes⟩, hr⟩
      · rintro ⟨⟨e', hshows, hcompletes⟩, hr⟩
        rw [(readField_whole_iff hkeyed.padded hcell hs).2 ⟨⟨e', hshows, rfl⟩, rfl⟩]
        exact (hrest _).2 ⟨hcompletes, hr⟩

/-- **The members behind the first are read exactly if they complete the draft.** -/
theorem readMembers_flatMap_iff {others : List KeyedCell} (hkeyed : ∀ cell ∈ others, cell.IsKeyed)
    (hcells : ∀ cell ∈ others, Spells cell.form cell.text) (hw : IsBlank w) :
    readMembers false d (w ++ ((others.flatMap fun cell ↦ ',' :: cell.line) ++ '\x7d' :: r)) =
      .ok (e, r') ↔ Completes d (others.map KeyedCell.member) e ∧ r' = r := by
  induction others generalizing d w with
  | nil => exact readMembers_of_end (Json.nextKey_append_done hw false r)
  | cons cell others ih =>
    obtain ⟨hfirst, hkeyed⟩ := List.forall_mem_cons.1 hkeyed
    obtain ⟨hcell, hcells⟩ := List.forall_mem_cons.1 hcells
    rw [List.flatMap_cons, List.append_assoc, List.cons_append, List.map_cons]
    have hmore := Json.endsNumber_flatMap others KeyedCell.line .object r
    exact readMembers_cons_iff hfirst hcell hmore (Json.nextKey_comma hfirst hw _) fun d ↦
      ih hkeyed hcells hfirst.padded.2

/-- **Which well-formed objects are events.** -/
theorem read_object_iff (h : Spells (.object members) t) :
    read (t ++ r) = .ok (e, r') ↔ Completes Draft.empty members e ∧ r' = r := by
  cases h with
  | emptyObject hw =>
    rw [List.cons_append, List.append_assoc, List.singleton_append, read_cons, mapError_eq_ok_iff]
    exact readMembers_of_end (Json.nextKey_append_done hw true r)
  | @object first others hkeyed hcells =>
    obtain ⟨hfirst, hkeyed⟩ := List.forall_mem_cons.1 hkeyed
    obtain ⟨hcell, hcells⟩ := List.forall_mem_cons.1 hcells
    rw [List.cons_append, List.append_assoc, List.append_assoc, List.singleton_append, read_cons,
      mapError_eq_ok_iff]
    have hmore := Json.endsNumber_flatMap others KeyedCell.line .object r
    exact readMembers_cons_iff hfirst hcell hmore (Json.nextKey_line hfirst _) fun d ↦
      readMembers_flatMap_iff hkeyed hcells hfirst.padded.2

/-! ### Arrays -/

/-- Elements under the names of fields. -/
def named (fields : List Field) (elements : List Form) : Members :=
  (fields.map fun field ↦ field.name.toList).zip elements

/-- The rest of an array completes the draft. -/
def EndsArray (fields : List Field) (count : Nat) (d : Draft String) (s : List Char)
    (e : Event String) (r : List Char) : Prop :=
  ∃ d' s', readElements fields count d s = .ok (d', s') ∧ closeArray s' = .ok r ∧ d'.finish = .ok e

theorem readArray_eq_ok_iff {s : List Char} :
    readArray s = .ok (e, r) ↔ EndsArray Field.all 0 Draft.empty s e r := by
  constructor
  · intro h
    rw [readArray] at h
    split at h
    case h_1 => cases h
    case h_2 helements =>
      split at h
      case h_1 => cases h
      case h_2 hclose =>
        split at h
        case h_1 hfinish =>
          obtain ⟨rfl, rfl⟩ := Prod.mk.inj (Except.ok.inj h)
          exact ⟨_, _, helements, hclose, hfinish⟩
        case h_2 => cases h
  · rintro ⟨d, s', helements, hclose, hfinish⟩
    simp only [readArray, helements, hclose, hfinish]

/-- **One element**, behind which the array goes on. -/
theorem endsArray_cons_iff {fields : List Field} {count : Nat} {first : Bool}
    (hcount : (count == 0) = first) {cell : Cell} (hpadded : cell.IsPadded)
    (hcell : Spells cell.form cell.text) {s text : List Char} (hs : EndsNumber s)
    (hnext : Json.nextElement first text = .ok (.more (cell.text ++ (cell.back ++ s)))) :
    EndsArray (field :: fields) count d text e r ↔ ∃ e', e'.Shows field cell.form ∧
      EndsArray fields (count + 1) (d.take e' field) (cell.back ++ s) e r := by
  have hfield : ∀ {d' : Draft String} {r' : List Char},
      readField field d (cell.text ++ (cell.back ++ s)) = .ok (d', r') ↔
        (∃ e' : Event String, e'.Shows field cell.form ∧ d.take e' field = d') ∧
          r' = cell.back ++ s :=
    readField_iff hcell (Json.endsNumber_append hpadded.2 hs)
  constructor
  · rintro ⟨d', s', helements, hend⟩
    rw [readElements, hcount, hnext] at helements
    simp only at helements
    split at helements
    case h_1 => cases helements
    case h_2 hread =>
      obtain ⟨⟨e', hshows, rfl⟩, rfl⟩ := hfield.1 hread
      exact ⟨e', hshows, d', s', helements, hend⟩
  · rintro ⟨e', hshows, d', s', helements, hend⟩
    refine ⟨d', s', ?_, hend⟩
    rw [readElements, hcount, hnext]
    simp only [hfield.2 ⟨⟨e', hshows, rfl⟩, rfl⟩, helements]

theorem not_endsArray_of_done {fields : List Field} {count : Nat} {first : Bool}
    (hcount : (count == 0) = first) {text : List Char}
    (hnext : Json.nextElement first text = .ok (.done r)) :
    ¬ EndsArray (field :: fields) count d text e r' := by
  rintro ⟨d', s', helements, -⟩
  rw [readElements, hcount, hnext] at helements
  cases helements

theorem closeArray_flatMap_iff {cells : List Cell} (hw : IsBlank w) {s : List Char} :
    closeArray (w ++ ((cells.flatMap fun cell ↦ ',' :: cell.whole) ++ ']' :: r)) = .ok s ↔
      cells = [] ∧ s = r := by
  cases cells with
  | nil =>
    have hclose : closeArray (w ++ ']' :: r) = .ok r := by
      rw [closeArray, Json.skipSpace_append_cons hw (by decide)]
      exact if_pos rfl
    rw [List.flatMap_nil, List.nil_append, hclose]
    exact ⟨fun h ↦ ⟨rfl, (Except.ok.inj h).symm⟩, fun h ↦ h.2 ▸ rfl⟩
  | cons cell cells =>
    rw [List.flatMap_cons, List.cons_append, List.cons_append, closeArray,
      Json.skipSpace_append_cons hw (by decide)]
    refine iff_of_false (fun h ↦ ?_) fun h ↦ List.cons_ne_nil _ _ h.1
    simp only [show ',' ≠ ']' by decide, if_false, if_true] at h
    split at h <;> cases h

/-- The fields of an array go on as an object does whose members have their names. -/
theorem endsArray_named_iff {fields : List Field} {elements : List Form}
    {P : Draft String → Prop} (hnew : ∀ field' ∈ field :: fields, d.has field' = false)
    (hnodup : (field :: fields).Nodup)
    (hrest : ∀ d, (∀ field' ∈ fields, d.has field' = false) →
      (P d ↔ (fields.length = elements.length ∧ Completes d (named fields elements) e) ∧ r' = r)) :
    (∃ e', e'.Shows field form ∧ P (d.take e' field)) ↔
      ((field :: fields).length = (form :: elements).length ∧
        Completes d (named (field :: fields) (form :: elements)) e) ∧ r' = r := by
  obtain ⟨hfirst, hnew⟩ := List.forall_mem_cons.1 hnew
  have hnamed : named (field :: fields) (form :: elements) =
      (field.name.toList, form) :: named fields elements := rfl
  have htaken : ∀ e' : Event String, ∀ field' ∈ fields, (d.take e' field).has field' = false :=
    fun e' field' hmem ↦ by
      rw [Draft.has_take_of_ne]
      · exact hnew field' hmem
      · rintro rfl
        exact (List.nodup_cons.1 hnodup).1 hmem
  rw [hnamed, ← exists_shows_completes_iff hfirst, List.length_cons, List.length_cons,
    Nat.add_right_cancel_iff]
  constructor
  · rintro ⟨e', hshows, h⟩
    obtain ⟨⟨hlength, hcompletes⟩, hr⟩ := (hrest _ (htaken e')).1 h
    exact ⟨⟨hlength, e', hshows, hcompletes⟩, hr⟩
  · rintro ⟨⟨hlength, e', hshows, hcompletes⟩, hr⟩
    exact ⟨e', hshows, (hrest _ (htaken e')).2 ⟨⟨hlength, hcompletes⟩, hr⟩⟩

/-- **The elements behind the first are read exactly if there is one for each field and they
complete the draft.** -/
theorem endsArray_flatMap_iff {fields : List Field} {cells : List Cell} {count : Nat}
    (hpadded : ∀ cell ∈ cells, cell.IsPadded) (hcells : ∀ cell ∈ cells, Spells cell.form cell.text)
    (hw : IsBlank w) (hnodup : fields.Nodup) (hnew : ∀ field ∈ fields, d.has field = false) :
    EndsArray fields (count + 1) d
        (w ++ ((cells.flatMap fun cell ↦ ',' :: cell.whole) ++ ']' :: r)) e r' ↔
      (fields.length = (cells.map Cell.form).length ∧
        Completes d (named fields (cells.map Cell.form)) e) ∧ r' = r := by
  induction fields generalizing cells d w count with
  | nil =>
    -- All fields have been read, so that only the bracket may follow.
    have hclose := @closeArray_flatMap_iff r w cells hw r'
    rw [show named [] (cells.map Cell.form) = [] from rfl, ← finish_eq_ok_iff, List.length_nil,
      List.length_map, eq_comm (a := 0), List.length_eq_zero_iff]
    constructor
    · rintro ⟨_, _, hread, hend, hfinish⟩
      obtain ⟨rfl, rfl⟩ := Prod.mk.inj (Except.ok.inj hread)
      obtain ⟨hnone, hr⟩ := hclose.1 hend
      exact ⟨⟨hnone, hfinish⟩, hr⟩
    · rintro ⟨⟨hnone, hfinish⟩, hr⟩
      exact ⟨d, _, rfl, hclose.2 ⟨hnone, hr⟩, hfinish⟩
  | cons field fields ih =>
    cases cells with
    | nil =>
      have hdone := Json.nextElement_append_done hw false r
      exact iff_of_false (not_endsArray_of_done rfl hdone) fun h ↦ Nat.succ_ne_zero _ h.1.1
    | cons cell cells =>
      obtain ⟨hfirst, hpadded⟩ := List.forall_mem_cons.1 hpadded
      obtain ⟨hcell, hcells⟩ := List.forall_mem_cons.1 hcells
      have hcount : (count + 1 == 0) = false := rfl
      have hmore := Json.endsNumber_flatMap cells Cell.whole .array r
      rw [List.flatMap_cons, List.append_assoc, List.cons_append]
      refine (endsArray_cons_iff hcount hfirst hcell hmore
        (Json.nextElement_comma hfirst hw hcell _)).trans ?_
      exact endsArray_named_iff hnew hnodup fun d hnew ↦
        ih hpadded hcells hfirst.2 (List.nodup_cons.1 hnodup).2 hnew

/-- **Which well-formed arrays are events.** -/
theorem read_array_iff {elements : List Form} (h : Spells (.array elements) t) :
    read (t ++ r) = .ok (e, r') ↔ (Field.all.length = elements.length ∧
      Completes Draft.empty (named Field.all elements) e) ∧ r' = r := by
  have hread : ∀ s : List Char, (read ('[' :: s) : Except Json.Fault (Event String × List Char)) =
      readArray s := fun s ↦ by
    rw [read, Json.skipSpace_cons (by decide)]
    rfl
  have hall : Field.all = .id :: Field.all.tail := rfl
  cases h with
  | emptyArray hw =>
    rw [List.cons_append, List.append_assoc, List.singleton_append, hread, readArray_eq_ok_iff]
    have hdone := Json.nextElement_append_done hw true r
    exact iff_of_false (not_endsArray_of_done rfl hdone) fun h ↦ Nat.succ_ne_zero _ h.1.1
  | @array first others hpadded hcells =>
    obtain ⟨hfirst, hpadded⟩ := List.forall_mem_cons.1 hpadded
    obtain ⟨hcell, hcells⟩ := List.forall_mem_cons.1 hcells
    have hcount : (0 == 0) = true := rfl
    have hmore := Json.endsNumber_flatMap others Cell.whole .array r
    rw [List.cons_append, List.append_assoc, List.append_assoc, List.singleton_append, hread,
      readArray_eq_ok_iff, hall]
    refine (endsArray_cons_iff hcount hfirst hcell hmore
      (Json.nextElement_whole hfirst hcell _)).trans ?_
    exact endsArray_named_iff (fun field _ ↦ by cases field <;> rfl) (by decide) fun d hnew ↦
      endsArray_flatMap_iff hpadded hcells hfirst.2 (by decide) hnew

end QueueJournal.Event
