import QueueJournal.Proofs.Event.Decoding
import QueueJournal.Proofs.Journal.LineByLine

/-!
# Which lines of a journal are accepted

Between lines that can be read, a line that is a well-formed object is accepted exactly if its
members are those of an event, and what is read is the one event that they show (`acceptsLine`).
Neither the order of the members nor the blanks around the tokens count, nor how strings are
spelled, nor what else stands in the object. A line that is a well-formed array is accepted exactly
if it has eight elements and the object in which they stand under the names of the fields would be.

The line may be ended by a line feed or by the end of the file. A carriage return in front of the
line feed goes with it; it would be a blank otherwise (`exists_splitLines_document`).
-/

namespace QueueJournal

open Json (Form Spells Document IsBlank KeyedCell)

variable {form : Form} {line : List Char}

/-! ### One text -/

namespace Json

/-- The text of the form stands between brackets or braces. -/
def Form.IsContainer : Form → Prop
  | .array _ | .object _ => True
  | _ => False

theorem Spells.exists_bracketed (h : Spells form line) (hform : form.IsContainer) :
    ∃ c s c', line = (c :: s) ++ [c'] ∧ Text.isBlank c = false ∧ c' ≠ '\r' := by
  cases h with
  | emptyArray => exact ⟨'[', _, ']', rfl, by decide, by decide⟩
  | array => exact ⟨'[', _, ']', by rw [← List.append_assoc]; rfl, by decide, by decide⟩
  | emptyObject => exact ⟨'\x7b', _, '\x7d', rfl, by decide, by decide⟩
  | object => exact ⟨'\x7b', _, '\x7d', by rw [← List.append_assoc]; rfl, by decide, by decide⟩
  | _ => exact hform.elim

/-- A carriage return behind a document is one of its blanks. -/
theorem Document.dropReturn {s : List Char} (h : Document form (s ++ ['\r']))
    (hform : form.IsContainer) : Document form s := by
  generalize hline : s ++ ['\r'] = line at h
  obtain @⟨front, text, back, hfront, htext, hback⟩ := h
  rw [← List.append_assoc] at hline
  -- If there are no blanks behind the text, the last character is a bracket.
  cases hlast : back.getLast? with
  | none =>
    obtain rfl := List.getLast?_eq_none_iff.1 hlast
    obtain ⟨c, t, c', rfl, -, hc'⟩ := htext.exists_bracketed hform
    rw [List.append_nil, ← List.append_assoc] at hline
    exact absurd (List.singleton_inj.1 (List.append_inj' hline rfl).2).symm hc'
  | some b =>
    obtain ⟨back, rfl⟩ := List.getLast?_eq_some_iff.1 hlast
    rw [← List.append_assoc] at hline
    obtain ⟨rfl, -⟩ := List.append_inj' hline rfl
    rw [List.append_assoc]
    exact .value hfront htext fun c hc ↦ hback c (List.mem_append_left _ hc)

theorem Document.isAllBlank_eq_false (h : Document form line) (hform : form.IsContainer) :
    Text.isAllBlank line = false := by
  cases h with | value _ htext _ =>
  obtain ⟨c, t, c', rfl, hc, -⟩ := htext.exists_bracketed hform
  simp [Text.isAllBlank_eq_all, hc]

end Json

/-- A document is read as an event if its text is. -/
theorem Event.parse_document_iff {P : Event String → Prop} (h : Document form line)
    (hread : ∀ {t r r' : List Char} {e : Event String}, Spells form t →
      (read (t ++ r) = .ok (e, r') ↔ P e ∧ r' = r)) {e : Event String} :
    parse line = .ok e ↔ P e := by
  cases h with | @value front text back hfront htext hback =>
  have hblank : Json.skipSpace back = [] := by
    rw [← List.append_nil back, Json.skipSpace_append hback]
    rfl
  have hskip : (read (front ++ (text ++ back)) : Except Json.Fault (Event String × List Char)) =
      read (text ++ back) := by
    rw [read, read, Json.skipSpace_append hfront]
  rw [parse, hskip]
  constructor
  · intro h
    split at h
    case h_1 => cases h
    case h_2 e' r' hok =>
      obtain ⟨he', rfl⟩ := (hread htext).1 hok
      rw [hblank] at h
      exact Except.ok.inj h ▸ he'
  · intro he
    simp only [(hread htext).2 ⟨he, rfl⟩, hblank]

namespace Journal

/-! ### One line -/

theorem splitLines_returned {bytes : Bytes} (hbytes : lineFeed ∉ bytes) :
    splitLines (bytes ++ [carriageReturn, lineFeed]) = [bytes] := by
  rw [splitLines_append_cons hbytes fun _ ↦ by decide, splitLines_return]
  exact (foldr_consLine bytes [] []).trans (by rw [List.append_nil])

/-- A content of one line that is a document holds one line that says the same. -/
theorem exists_splitLines_document (h : Document form line) (hform : form.IsContainer)
    (hline : '\n' ∉ line) {ending : Bytes} (hending : ending = [] ∨ ending = [lineFeed]) :
    ∃ s, Document form s ∧ splitLines (Text.encode line ++ ending) = [Text.encode s] := by
  have hbytes := lineFeed_notMem_encode hline
  rcases hending with rfl | rfl
  · refine ⟨line, h, ?_⟩
    have hdecode := Text.decode?_encode line
    rw [List.append_nil]
    cases hcontent : Text.encode line with
    | nil =>
      rw [hcontent] at hdecode
      cases hdecode
      cases h.isAllBlank_eq_false hform
    | cons b content => exact splitLines_unended (hcontent ▸ hbytes)
  · by_cases hreturn : line.getLast? = some '\r'
    · obtain ⟨s, rfl⟩ := List.getLast?_eq_some_iff.1 hreturn
      have hs : lineFeed ∉ Text.encode s :=
        lineFeed_notMem_encode fun hmem ↦ hline (List.mem_append_left _ hmem)
      refine ⟨s, h.dropReturn hform, ?_⟩
      rw [Text.encode_append, List.append_assoc]
      exact splitLines_returned hs
    · exact ⟨line, h, splitLines_line hbytes (getLast?_encode_of_ne hreturn)⟩

/-- What is read of one line is the event on it. -/
theorem parseLines_singleton_iff {s : List Char} (hblank : Text.isAllBlank s = false)
    {events : List (Event String)} :
    parseLines [Text.encode s] = .ok events ↔ ∃ e, events = [e] ∧ Event.parse s = .ok e := by
  rw [parseLines, parseLine, Text.decode?_encode]
  simp only [hblank, Bool.false_eq_true, if_false]
  cases (Event.parse s : Except Json.Fault (Event String)) with
  | error fault =>
    constructor
    · intro h
      cases h
    · rintro ⟨_, _, h⟩
      cases h
  | ok e =>
    constructor
    · intro h
      exact ⟨e, (Except.ok.inj h).symm, rfl⟩
    · rintro ⟨e', rfl, h⟩
      obtain rfl := Except.ok.inj h
      rfl

theorem parse_document_iff (h : Document form line) (hform : form.IsContainer)
    (hline : '\n' ∉ line) {ending : Bytes} (hending : ending = [] ∨ ending = [lineFeed])
    {P : Event String → Prop} (hread : ∀ {t r r' : List Char} {e : Event String}, Spells form t →
      (Event.read (t ++ r) = .ok (e, r') ↔ P e ∧ r' = r)) {events : List (Event String)} :
    parse (Text.encode line ++ ending) = .ok events ↔ ∃ e, events = [e] ∧ P e := by
  obtain ⟨s, hs, hsplit⟩ := exists_splitLines_document h hform hline hending
  rw [parse, hsplit, parseLines_singleton_iff (hs.isAllBlank_eq_false hform)]
  simp only [Event.parse_document_iff hs hread]

/-! ### One line among others -/

/-- The content has this line, and the lines in front of it and behind it hold these events. -/
inductive HasLine (line : List Char) (earlier later : List (Event String)) : Bytes → Prop where
  /-- A line feed ends the line. -/
  | ended {before after : Bytes} (hends : EndsLine before) (hbefore : parse before = .ok earlier)
    (hafter : parse after = .ok later) :
    HasLine line earlier later (before ++ ((Text.encode line ++ [lineFeed]) ++ after))
  /-- Nothing follows the line. -/
  | last {before : Bytes} (hends : EndsLine before) (hbefore : parse before = .ok earlier)
    (hlater : later = []) : HasLine line earlier later (before ++ Text.encode line)

variable {earlier later : List (Event String)} {content : Bytes}

/-- If a single event is found, it stands between the others. -/
theorem map_eq_ok_iff_of_single {found : Except Failure (List (Event String))}
    {P : Event String → Prop} (h : ∀ {events}, found = .ok events ↔ ∃ e, events = [e] ∧ P e)
    {events : List (Event String)} :
    (found.map fun events ↦ earlier ++ (events ++ later)) = .ok events ↔
      ∃ e, events = earlier ++ e :: later ∧ P e := by
  constructor
  · intro hmap
    cases hfound : found with
    | error failure =>
      rw [hfound] at hmap
      cases hmap
    | ok single =>
      obtain ⟨e, rfl, he⟩ := h.1 hfound
      rw [hfound] at hmap
      exact ⟨e, (Except.ok.inj hmap).symm, he⟩
  · rintro ⟨e, rfl, he⟩
    rw [h.2 ⟨e, rfl, he⟩]
    rfl

/-- **A content with a line that is a document** is read as the event that its text is read as,
between the events of the other lines. -/
theorem HasLine.parse_iff (h : HasLine line earlier later content) (hdocument : Document form line)
    (hform : form.IsContainer) (hline : '\n' ∉ line) {P : Event String → Prop}
    (hread : ∀ {t r r' : List Char} {e : Event String}, Spells form t →
      (Event.read (t ++ r) = .ok (e, r') ↔ P e ∧ r' = r)) {events : List (Event String)} :
    parse content = .ok events ↔ ∃ e, events = earlier ++ e :: later ∧ P e := by
  cases h with
  | ended hends hbefore hafter =>
    rw [parse_append hends hbefore, parse_append_eq (endsLine_append_lineFeed _), hafter,
      ← map_eq_ok_iff_of_single (parse_document_iff hdocument hform hline (.inr rfl) hread)]
    cases (parse (Text.encode line ++ [lineFeed]) : Except Failure (List (Event String))) <;> rfl
  | last hends hbefore hlater =>
    rw [parse_append hends hbefore, hlater, ← List.append_nil (Text.encode line),
      ← map_eq_ok_iff_of_single (parse_document_iff hdocument hform hline (.inl rfl) hread)]
    simp only [List.append_nil]

/-! ### What is accepted -/

/-- If the members are those of an event, the event that they show is read between the others; else
the file is not accepted. -/
structure Holds (storage : Storage) (path : String) (earlier later : List (Event String))
    (members : Event.Members) : Prop where
  /-- Whether the file is accepted. -/
  accepted : (∃ events : List (Event String), readFile storage path = .ok events) ↔
    Event.Acceptable members
  /-- What is read. -/
  shown : Event.Acceptable members → ∀ events : List (Event String),
    readFile storage path = .ok events ↔
      ∃ e, events = earlier ++ e :: later ∧ Event.Decodes members e

theorem holds_of_iff {storage : Storage} {path : String} {members : Event.Members}
    (h : ∀ events : List (Event String), readFile storage path = .ok events ↔
      ∃ e, events = earlier ++ e :: later ∧ Event.Completes Event.Draft.empty members e) :
    Holds storage path earlier later members := by
  simp only [Event.completes_empty_iff] at h
  constructor
  · rw [← Event.exists_decodes_iff]
    constructor
    · rintro ⟨events, hread⟩
      obtain ⟨e, -, he⟩ := (h events).1 hread
      exact ⟨e, he⟩
    · rintro ⟨e, he⟩
      exact ⟨earlier ++ e :: later, (h _).2 ⟨e, rfl, he⟩⟩
  · intro hacceptable events
    simp only [h events, hacceptable.once, implies_true, true_and]

/-- What becomes of a file with a line between others that can be read, by what the line says. -/
structure AcceptsLine (storage : Storage) (path : String) (line : List Char)
    (earlier later : List (Event String)) : Prop where
  /-- An object holds the event that its members show. -/
  object : ∀ {members}, Document (.object members) line →
    Holds storage path earlier later members
  /-- An array of eight elements holds the event that they show under the names of the fields. -/
  array : ∀ {elements}, Document (.array elements) line → elements.length = 8 →
    Holds storage path earlier later (Event.named Event.Field.all elements)
  /-- Other arrays are not accepted. -/
  otherArray : ∀ {elements}, Document (.array elements) line → elements.length ≠ 8 →
    ∃ failure, (readFile storage path : Except Failure (List (Event String))) = .error failure

/-- **Which lines are accepted**, and what is read of them. -/
theorem acceptsLine {storage : Storage} {path : String} (hfile : storage.HasFile path content)
    (hline : '\n' ∉ line) (hcontent : HasLine line earlier later content) :
    AcceptsLine storage path line earlier later where
  object h := holds_of_iff fun _ ↦ by
    rw [readFile_of_hasFile hfile, hcontent.parse_iff h trivial hline Event.read_object_iff]
  array h hlength := holds_of_iff fun events ↦ by
    rw [readFile_of_hasFile hfile, hcontent.parse_iff h trivial hline Event.read_array_iff]
    simp only [Event.Field.all, List.length_cons, List.length_nil, hlength, true_and]
  otherArray h hlength := by
    rw [readFile_of_hasFile hfile]
    cases hparse : (parse content : Except Failure (List (Event String))) with
    | error failure => exact ⟨failure, rfl⟩
    | ok events =>
      obtain ⟨_, -, hall, -⟩ := (hcontent.parse_iff h trivial hline Event.read_array_iff).1 hparse
      exact absurd hall.symm hlength

/-- The key of the number is spelled by an escape, the operation stands in an object, and a key that
is no field occurs twice. -/
theorem acceptsLine_escaped :
    let line := ("\x7b\"x\":[], \"\\u0069d\":1,\"worker\":\"w\",\"op\":\x7b\"clear\":null\x7d," ++
      "\"x\":true,\"accepted\":true,\"at_micros\":5\x7d").toList
    let storage := Storage.fresh.put ["work", "here", "j"] (.file (Text.encode line ++ [lineFeed]))
    '\n' ∉ line ∧ storage.HasFile "j" (Text.encode line ++ [lineFeed]) ∧
      readFile storage "j" =
        .ok [Event.mk 1 "w" .clear (none : Option String) none none true 5] := by
  intro line storage
  have hline : '\n' ∉ line := by decide
  have hfile : storage.HasFile "j" (Text.encode line ++ [lineFeed]) :=
    ⟨["work", "here", "j"], rfl, rfl⟩
  let number : KeyedCell := {
    KeyedCell.plain "id" (.number ['1']) "1" with
    keyFront := [' ']
    keyText := "\\u0069d".toList }
  let clear := KeyedCell.plain "clear" .null "null"
  let first := KeyedCell.plain "x" (.array []) "[]"
  let others := [number, .plain "worker" (.string ['w']) "\"w\"",
    .plain "op" (.object [clear.member]) "\x7b\"clear\":null\x7d",
    .plain "x" (.bool true) "true", .plain "accepted" (.bool true) "true",
    .plain "at_micros" (.number ['5']) "5"]
  have hescaped : Json.SpellsChars ['i', 'd'] (['\\', 'u', '0', '0', '6', '9'] ++ (['d'] ++ [])) :=
    .cons (.unit (n := 0x69) ⟨rfl, by decide⟩ (by decide) rfl)
      (.cons (.plain (by decide) (by decide) rfl) .nil)
  have hnumber : number.IsKeyed :=
    ⟨⟨List.forall_mem_nil _, List.forall_mem_nil _⟩, List.forall_mem_singleton.2 rfl, hescaped,
      List.forall_mem_nil _⟩
  have hkeyed : ∀ cell ∈ first :: others, cell.IsKeyed := by
    simp only [first, others, List.forall_mem_cons, hnumber, true_and]
    refine ⟨?_, ?_, ?_, ?_, ?_, ?_, List.forall_mem_nil _⟩ <;>
      exact KeyedCell.isKeyed_plain _ _ rfl
  have hclear : Spells (.object [clear.member]) ('\x7b' :: (clear.line ++ ([] ++ ['\x7d']))) :=
    .object (List.forall_mem_singleton.2 (KeyedCell.isKeyed_plain _ _ rfl))
      (List.forall_mem_singleton.2 .null)
  have hcells : ∀ cell ∈ first :: others, Spells cell.form cell.text := by
    simp only [first, others, List.forall_mem_cons]
    exact ⟨.emptyArray (List.forall_mem_nil _), Json.spells_digit rfl,
      .string (Json.spellsChars_self rfl), hclear, .bool true, .bool true, Json.spells_digit rfl,
      List.forall_mem_nil _⟩
  let members := (first :: others).map KeyedCell.member
  have hdocument : Document (.object members) ([] ++ (line ++ [])) :=
    .value (List.forall_mem_nil _) (.object hkeyed hcells) (List.forall_mem_nil _)
  have hforms : ∀ field, Event.formsOf field members =
      match field with
      | .id => [.number ['1']]
      | .worker => [.string ['w']]
      | .operation => [.object [clear.member]]
      | .accepted => [.bool true]
      | .atMicros => [.number ['5']]
      | _ => [] := fun field ↦ by cases field <;> rfl
  have hdecodes : Event.Decodes members
      (Event.mk 1 "w" .clear (none : Option String) none none true 5) := by
    constructor <;> intro field <;> rw [hforms]
    · cases field
      case id | atMicros => exact List.forall_mem_singleton.2 ⟨rfl, by decide⟩
      case worker | accepted => exact List.forall_mem_singleton.2 rfl
      case operation => exact List.forall_mem_singleton.2 (.inr rfl)
      case item | index | size => exact List.forall_mem_nil _
    · cases field
      case item | index | size => exact fun _ ↦ rfl
      all_goals exact fun hnone ↦ by cases hnone
  have honce : ∀ field,
      (Event.formsOf field members).length ≤ 1 := fun field ↦ by
    rw [hforms]
    cases field <;> decide
  have hcontent : HasLine line [] [] ([] ++ ((Text.encode line ++ [lineFeed]) ++ [])) :=
    .ended endsLine_nil rfl rfl
  have haccepts : AcceptsLine storage "j" line [] [] := acceptsLine hfile hline hcontent
  have hacceptable := Event.exists_decodes_iff.1 ⟨_, honce, hdecodes⟩
  exact ⟨hline, hfile, ((haccepts.object hdocument).shown hacceptable _).2 ⟨_, rfl, hdecodes⟩⟩

end Journal

end QueueJournal
