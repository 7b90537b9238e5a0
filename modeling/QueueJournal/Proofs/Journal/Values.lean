import Mathlib.Data.List.DropRight
import QueueJournal.Proofs.Event.Reading
import QueueJournal.Proofs.Journal.LineByLine
import QueueJournal.Proofs.Json.Value

/-!
# Journals with values for items

A value of any depth can be written, but a line of a journal has room for 127 arrays and objects
inside one another, of which the event is one. So a journal whose values are no deeper than 126 is
read back, save that an item `null` comes back as no item; and the first deeper one makes the whole
file unreadable (`keepsValues`). What has been read once has neither flaw: its values fitted the
line they stood on, and none of them is `null` (`Event.WasRead.survives`), so it is read back
unchanged for ever.
-/

namespace QueueJournal

/-! ### Values for items -/

/-- What a value is read as where an item may be missing: `null` is no item. -/
def Json.asItem : Json → Option Json
  | .null => none
  | v => some v

theorem Json.asItem_of_ne_null {v : Json} (h : v ≠ .null) : v.asItem = some v := by
  cases v <;> first | rfl | exact absurd rfl h

/-- **A value is read back as an item** if it is no deeper than 126. -/
theorem Json.readOption_text {v : Json} (hvalid : v.Valid) (hfree : v.FloatFree)
    (hdepth : v.depth ≤ 126) {r : List Char} (hr : EndsNumber r) :
    Json.readOption Item.read (v.text ++ r) = .ok (v.asItem, r) := by
  obtain ⟨c, s, hs, hspace, -, hnull⟩ := exists_text_eq_cons hfree
  by_cases hc : c = 'n'
  · rw [hnull hc]
    rfl
  · have hread : (Item.read (v.text ++ r) : Except Fault (Json × List Char)) = .ok (v, r) := by
      have hback := (readsBack hvalid hfree 126 [] r hr (by decide)).1 (by simpa using hdepth)
      exact hback.trans (readBehind_nil v r)
    have hne : v ≠ .null := by
      rintro rfl
      exact hc (List.cons.inj hs).1.symm
    rw [asItem_of_ne_null hne]
    rw [hs, List.cons_append] at hread ⊢
    rw [readOption_cons _ hspace hc, hread]
    rfl

/-- A deeper value is not. -/
theorem Json.exists_readOption_tooDeep {v : Json} (hvalid : v.Valid) (hfree : v.FloatFree)
    (hdepth : 126 < v.depth) {r : List Char} (hr : EndsNumber r) :
    ∃ unread, Json.readOption (Item.read : List Char → Except Fault (Json × List Char))
      (v.text ++ r) = .error (.placed .tooDeep unread) := by
  obtain ⟨c, s, hs, hspace, -, hnull⟩ := exists_text_eq_cons hfree
  obtain ⟨unread, hread⟩ :=
    (readsBack hvalid hfree 126 [] r hr (by decide)).2 (by simpa using hdepth)
  have hread : (Item.read (v.text ++ r) : Except Fault (Json × List Char)) =
      .error (.placed .tooDeep unread) := hread
  have hc : c ≠ 'n' := by
    rintro rfl
    rw [hnull rfl] at hdepth
    cases hdepth
  rw [hs, List.cons_append] at hread ⊢
  rw [readOption_cons _ hspace hc, hread]
  exact ⟨unread, rfl⟩

/-- What is read as an item fits a line, and is never `null`. -/
theorem Json.fit_of_readOption {v : Json} {s r : List Char}
    (h : Json.readOption Item.read s = .ok (some v, r)) : v.Valid ∧ v.depth ≤ 126 ∧ v ≠ .null := by
  rw [readOption] at h
  split at h
  case h_1 => split at h <;> cases h
  case h_2 hword =>
    split at h
    case h_1 => cases h
    case h_2 hread =>
      obtain ⟨hv, -⟩ := Prod.mk.inj (Except.ok.inj h)
      obtain rfl := Option.some.inj hv
      obtain ⟨hvalid, hdepth, hnull⟩ := fit_of_read hread
      refine ⟨hvalid, hdepth, fun hv ↦ ?_⟩
      obtain ⟨t, ht⟩ := hnull hv
      rw [skipSpace, skipSpace, List.dropWhile_idempotent] at ht
      exact hword t ht

namespace Event

/-- An event as a program can hold it, without floating-point numbers in its item. -/
structure Recordable (e : Event Json) : Prop where
  /-- The numbers are of sixty-four bits. -/
  range : e.InRange
  /-- A program can hold the item. -/
  valid : ∀ v, e.item = some v → v.Valid
  /-- There are no floating-point numbers in it. -/
  floatFree : ∀ v, e.item = some v → v.FloatFree

/-- The item is no deeper than a line has room for inside the event. -/
def Shallow (e : Event Json) : Prop :=
  ∀ v, e.item = some v → v.depth ≤ 126

/-- The event without its item if that is `null`. -/
def withoutNull (e : Event Json) : Event Json :=
  { e with item := e.item.bind Json.asItem }

variable {e : Event Json}

/-- No value refuses to be written. -/
theorem refusal_json (e : Event Json) : e.write.refusal = none := by
  rw [write]
  cases e.item <;> rfl

theorem lineFeed_notMem_write_json (he : e.Recordable) : '\n' ∉ e.write.pieces.flatten := by
  refine e.lineFeed_notMem_write_of_item fun v pieces hv hpieces ↦ ?_
  obtain rfl : v.pieces = pieces := Except.ok.inj hpieces
  exact Json.lineFeed_notMem_text (he.floatFree v hv)

/-- **An event with a shallow item is read back**, but for an item that is `null`. -/
theorem parse_of_shallow (he : e.Recordable) (hshallow : e.Shallow) :
    parse e.write.pieces.flatten = .ok e.withoutNull := by
  cases hitem : e.item with
  | none =>
    rw [parse_of_no_item he.range hitem, withoutNull, hitem, Option.bind_none, ← hitem]
  | some v =>
    have hread := Json.readOption_text (he.valid v hitem) (he.floatFree v hitem)
      (hshallow v hitem) e.endsNumber_piecesAfter
    rw [parse_of_item he.range hitem rfl hread, withoutNull, hitem, Option.bind_some]

/-- An event with a deeper item is not. -/
theorem exists_parse_tooDeep (he : e.Recordable) (hdeep : ¬ e.Shallow) :
    ∃ unread, parse e.write.pieces.flatten =
      (.error (.placed .tooDeep unread) : Except Json.Fault (Event Json)) := by
  obtain ⟨v, hitem, hdepth⟩ : ∃ v, e.item = some v ∧ 126 < v.depth := by
    simpa [Shallow] using hdeep
  obtain ⟨unread, hread⟩ := Json.exists_readOption_tooDeep (he.valid v hitem)
    (he.floatFree v hitem) hdepth e.endsNumber_piecesAfter
  refine ⟨unread, ?_⟩
  rw [write_of_item hitem rfl, List.flatten_append]
  exact parse_of_item_error he.range.id hread

/-- **An event that has been read survives**: it can be recorded if it is free of floating-point
numbers, its item is shallow, and it is not `null`. -/
theorem WasRead.survives (he : e.WasRead) (hfree : ∀ v, e.item = some v → v.FloatFree) :
    e.Recordable ∧ e.Shallow ∧ e.withoutNull = e := by
  have hitem : ∀ v, e.item = some v → v.Valid ∧ v.depth ≤ 126 ∧ v ≠ .null := fun v hv ↦ by
    obtain ⟨s, r, hread⟩ := he.item v hv
    exact Json.fit_of_readOption hread
  refine ⟨⟨he.range, fun v hv ↦ (hitem v hv).1, hfree⟩, fun v hv ↦ (hitem v hv).2.1, ?_⟩
  cases hv : e.item with
  | none => rw [withoutNull, hv, Option.bind_none, ← hv]
  | some v => rw [withoutNull, hv, Option.bind_some, Json.asItem_of_ne_null (hitem v hv).2.2, ← hv]

end Event

namespace Journal

variable {events : List (Event Json)}

/-! ### Lines that have been written -/

theorem parse_lineOf_of_shallow {event : Event Json} (hevent : event.Recordable)
    (hshallow : event.Shallow) : parse (lineOf event) = .ok [event.withoutNull] :=
  parse_lineOf_of_parse (Event.lineFeed_notMem_write_json hevent) event.refusal_json
    (Event.parse_of_shallow hevent hshallow)

/-- The line of an event with a deeper item fails, whatever follows it. -/
theorem exists_parse_tooDeep {event : Event Json} (hevent : event.Recordable)
    (hdeep : ¬ event.Shallow) :
    ∃ column, ∀ more : Bytes, parse (lineOf event ++ more) =
      (.error (.record (.line .tooDeep column)) : Except Failure (List (Event Json))) := by
  obtain ⟨unread, hparse⟩ := Event.exists_parse_tooDeep hevent hdeep
  obtain ⟨s, hs⟩ := event.exists_write_eq_cons
  have hline := lineFeed_notMem_encode (Event.lineFeed_notMem_write_json hevent)
  have hreturn := getLast?_encode (Event.getLast?_write event.refusal_json)
  have hblank : Text.isAllBlank event.write.pieces.flatten = false := by
    rw [hs]
    simp [Text.isAllBlank_eq_all, show Text.isBlank '\x7b' = false by decide]
  let line := Text.encode event.write.pieces.flatten
  refine ⟨(Json.Fault.placed .tooDeep unread).column line.length, fun more ↦ ?_⟩
  have hfirst : FirstLine line (lineOf event ++ more) := by
    rw [lineOf, List.append_assoc]
    exact .ended more hreturn
  exact hfirst.parse_eq_record hline (Text.decode?_encode _) hblank hparse

theorem parse_linesOf_of_shallow (hevents : ∀ event ∈ events, event.Recordable)
    (hshallow : ∀ event ∈ events, event.Shallow) :
    parse (linesOf events) = .ok (events.map Event.withoutNull) := by
  induction events with
  | nil => rfl
  | cons event events ih =>
    obtain ⟨hevent, hevents⟩ := List.forall_mem_cons.1 hevents
    obtain ⟨hfirst, hshallow⟩ := List.forall_mem_cons.1 hshallow
    rw [linesOf, List.flatMap_cons,
      parse_append (endsLine_lineOf event) (parse_lineOf_of_shallow hevent hfirst), ← linesOf,
      ih hevents hshallow]
    rfl

/-- **The first event with a deeper item decides the failure.** -/
theorem exists_parse_linesOf_tooDeep {before after : List (Event Json)} {event : Event Json}
    (hbefore : ∀ event ∈ before, event.Recordable) (hshallow : ∀ event ∈ before, event.Shallow)
    (hevent : event.Recordable) (hdeep : ¬ event.Shallow) :
    ∃ column, parse (lineOf event) = (.error (.record (.line .tooDeep column)) :
        Except Failure (List (Event Json))) ∧
      parse (linesOf (before ++ event :: after)) = (.error (.record (.line .tooDeep column)) :
        Except Failure (List (Event Json))) := by
  obtain ⟨column, hcolumn⟩ := exists_parse_tooDeep hevent hdeep
  refine ⟨column, List.append_nil (lineOf event) ▸ hcolumn [], ?_⟩
  have hlines : linesOf (event :: after) = lineOf event ++ linesOf after := List.flatMap_cons
  rw [linesOf_append, parse_append (endsLine_linesOf before)
    (parse_linesOf_of_shallow hbefore hshallow), hlines, hcolumn]
  rfl

/-! ### Events that have been read -/

theorem wasRead_of_parseLines {α : Type} [Item α] {lines : List Bytes} {events : List (Event α)}
    (h : parseLines lines = .ok events) : ∀ event ∈ events, event.WasRead := by
  induction lines generalizing events with
  | nil =>
    obtain rfl := Except.ok.inj h
    exact List.forall_mem_nil _
  | cons line lines ih =>
    obtain ⟨event?, hline, h⟩ := Json.bind_eq_ok h
    obtain ⟨rest, hrest, h⟩ := Json.bind_eq_ok h
    obtain rfl := Except.ok.inj h
    intro event hmem
    rcases List.mem_append.1 hmem with hevent | hmem
    · obtain rfl : event? = some event := Option.mem_toList.1 hevent
      rw [parseLine] at hline
      split at hline
      · cases hline
      · split at hline
        · cases hline
        · split at hline
          · rename_i hparse
            obtain rfl := Option.some.inj (Except.ok.inj hline)
            exact Event.wasRead_of_parse hparse
          · cases hline
    · exact ih hrest event hmem

theorem wasRead_of_readFile {α : Type} [Item α] {storage : Storage} {path : String}
    {events : List (Event α)} (h : readFile storage path = .ok events) :
    ∀ event ∈ events, event.WasRead := by
  rw [readFile] at h
  split at h
  · cases h
  · exact wasRead_of_parseLines h

/-! ### Journals that are appended to a fresh file -/

/-- What becomes of journals with values for items when they are appended to a fresh file. -/
structure KeepsValues (storage : Storage) (path : String) : Prop where
  /-- They are written, however deep the values are. -/
  written : ∀ j : Journal Json, (j.append storage path).1 = .ok j.length
  /-- If no value is deeper than 126, all events are read back, but for items that are `null`. -/
  shallow : ∀ j : Journal Json, (∀ event ∈ j.entries, event.Recordable) →
    (∀ event ∈ j.entries, event.Shallow) →
    readFile (j.append storage path).2 path = .ok (j.entries.map Event.withoutNull)
  /-- Otherwise reading fails with what is wrong with the line of the first deeper value. -/
  deep : ∀ (j : Journal Json) (before after : List (Event Json)) (event : Event Json),
    (∀ event ∈ j.entries, event.Recordable) → j.entries = before ++ event :: after →
    (∀ event ∈ before, event.Shallow) → ¬ event.Shallow →
    ∃ column, parse (lineOf event) = (.error (.record (.line .tooDeep column)) :
        Except Failure (List (Event Json))) ∧
      readFile (j.append storage path).2 path = (.error (.record (.line .tooDeep column)) :
        Except Failure (List (Event Json)))
  /-- Events that have been read from any file are read back unchanged. -/
  reread : ∀ (other : Storage) (source : String) (events : List (Event Json)),
    readFile other source = .ok events →
    (∀ event ∈ events, ∀ v, event.item = some v → v.FloatFree) →
    readFile ((⟨events⟩ : Journal Json).append storage path).2 path = .ok events

/-- **Values survive in a journal as far as a line has room for them.** -/
theorem keepsValues {storage : Storage} {path : String} (h : storage.Offers path []) :
    KeepsValues storage path := by
  have happend : ∀ j : Journal Json, (j.append storage path).1 = .ok j.length ∧
      (j.append storage path).2.HasFile path (linesOf j.entries) := fun j ↦
    append_of_written h fun event _ ↦ event.refusal_json
  have hread : ∀ j : Journal Json,
      (readFile (j.append storage path).2 path : Except Failure (List (Event Json))) =
        parse (linesOf j.entries) := fun j ↦ readFile_of_hasFile (happend j).2
  refine ⟨fun j ↦ (happend j).1, ?shallow, ?deep, ?reread⟩
  case shallow =>
    intro j hevents hshallow
    rw [hread, parse_linesOf_of_shallow hevents hshallow]
  case deep =>
    intro j before after event hevents hsplit hshallow hdeep
    rw [hread]
    rw [hsplit] at hevents ⊢
    exact exists_parse_linesOf_tooDeep (fun e he ↦ hevents e (List.mem_append_left _ he)) hshallow
      (hevents event List.mem_append_cons_self) hdeep
  case reread =>
    intro other source events hevents hfree
    have hsurvives := fun event hmem ↦
      (wasRead_of_readFile hevents event hmem).survives (hfree event hmem)
    have hsame : events.map Event.withoutNull = events :=
      (List.map_congr_left fun event hmem ↦ (hsurvives event hmem).2.2).trans (List.map_id events)
    rw [hread, parse_linesOf_of_shallow (fun event hmem ↦ (hsurvives event hmem).1)
      fun event hmem ↦ (hsurvives event hmem).2.1, hsame]

/-- An item that is `null` is lost, and an array in an array is kept. -/
theorem keepsValues_null :
    let lost : Event Json := .enqueue ⟨1, 5⟩ "w" .null (some 0)
    let kept : Event Json := .enqueue ⟨2, 6⟩ "w" (.array [.array []]) (some 1)
    Storage.fresh.Offers "j" [] ∧
      ((⟨[lost, kept]⟩ : Journal Json).append Storage.fresh "j").1 = .ok 2 ∧
      readFile ((⟨[lost, kept]⟩ : Journal Json).append Storage.fresh "j").2 "j" =
        .ok [{ lost with item := none }, kept] := by
  intro lost kept
  have hlocation : Storage.fresh.fileLocation "j" = .ok ["work", "here", "j"] := rfl
  have hmissing : Storage.fresh.Offers "j" [] := .missing hlocation rfl
  have hnested : (Json.array [.array []]).Valid ∧ (Json.array [.array []]).FloatFree := by
    refine ⟨.array fun v hv ↦ ?_, .array fun v hv ↦ ?_⟩
    · exact List.mem_singleton.1 hv ▸ .array (List.forall_mem_nil _)
    · exact List.mem_singleton.1 hv ▸ .array (List.forall_mem_nil _)
  have hlost : lost.Recordable ∧ lost.Shallow := by
    refine ⟨⟨by decide, fun v hv ↦ ?_, fun v hv ↦ ?_⟩, fun v hv ↦ ?_⟩
    all_goals obtain rfl := Option.some.inj hv
    · exact .null
    · exact .null
    · decide
  have hkept : kept.Recordable ∧ kept.Shallow := by
    refine ⟨⟨by decide, fun v hv ↦ ?_, fun v hv ↦ ?_⟩, fun v hv ↦ ?_⟩
    all_goals obtain rfl := Option.some.inj hv
    · exact hnested.1
    · exact hnested.2
    · decide
  have hvalues : KeepsValues Storage.fresh "j" := keepsValues hmissing
  refine ⟨hmissing, hvalues.written _, hvalues.shallow ⟨[lost, kept]⟩ ?_ ?_⟩
  · exact List.forall_mem_cons.2 ⟨hlost.1, List.forall_mem_singleton.2 hkept.1⟩
  · exact List.forall_mem_cons.2 ⟨hlost.2, List.forall_mem_singleton.2 hkept.2⟩

end Journal

end QueueJournal
