import QueueJournal.Journal.Append
import QueueJournal.Proofs.Journal.Lines
import QueueJournal.Proofs.Storage.Appending

/-!
# Journals that are appended are read back

A file is ready for a journal if it is missing, or if all its lines are ended and can be read
(`Ready`). Appending a journal whose items can all be written adds one line for each event and
leaves the file ready, with the events of the journal behind those that were there (`Ready.append`).
So the events of all journals that were appended are read back in order (`readFile_appendAll`); with
texts, signed integers and bytes as items nothing can go wrong.
-/

namespace QueueJournal.Journal

open Storage (Sink)

variable {α : Type} [Item α]

/-! ### Writing events -/

section Writing

variable {w : Sink} {events : List (Event α)}

theorem flatten_map_encode (pieces : List (List Char)) :
    (pieces.map Text.encode).flatten = Text.encode pieces.flatten := by
  induction pieces with
  | nil => rfl
  | cons piece pieces ih =>
    rw [List.map_cons, List.flatten_cons, List.flatten_cons, Text.encode_append, ih]

/-- The pieces of an event land behind what is there, whether or not they are all of it. -/
theorem exists_putAll_write (h : w.accepts = true) (event : Event α) :
    ∃ w', w.putAll (event.write.pieces.map Text.encode) = (w', none) ∧ w'.accepts = true ∧
      w'.landed = w.landed ++ Text.encode event.write.pieces.flatten := by
  rw [← flatten_map_encode]
  exact Sink.putAll_of_accepts h _

/-- **Events whose items are not refused become lines**, whatever is to be written behind them. -/
theorem exists_writeEntries_append (h : w.accepts = true)
    (hwritten : ∀ event ∈ events, event.write.refusal = none) (rest : List (Event α)) :
    ∃ w', writeEntries w (events ++ rest) = writeEntries w' rest ∧ w'.accepts = true ∧
      w'.landed = w.landed ++ linesOf events := by
  induction events generalizing w with
  | nil => exact ⟨w, rfl, h, (List.append_nil _).symm⟩
  | cons event events ih =>
    obtain ⟨hevent, hevents⟩ := List.forall_mem_cons.1 hwritten
    obtain ⟨w₁, hpieces, h₁, hlanded₁⟩ := exists_putAll_write h event
    obtain ⟨w₂, hend, h₂, hlanded₂⟩ := Sink.put_of_accepts h₁ [lineFeed]
    obtain ⟨w₃, hrest, h₃, hlanded₃⟩ := ih h₂ hevents
    refine ⟨w₃, ?_, h₃, ?_⟩
    · rw [List.cons_append, writeEntries]
      simp only [hpieces, hevent, hend, hrest]
    · rw [hlanded₃, hlanded₂, hlanded₁, linesOf, linesOf, List.flatMap_cons, lineOf]
      simp only [List.append_assoc]

/-- A journal whose items are not refused is written line by line. -/
theorem exists_writeTo (h : w.accepts = true) {j : Journal α}
    (hwritten : ∀ event ∈ j.entries, event.write.refusal = none) :
    ∃ w', j.writeTo w = (w', .ok j.length) ∧ w'.landed = w.landed ++ linesOf j.entries := by
  obtain ⟨w₁, hentries, h₁, hlanded⟩ := exists_writeEntries_append h hwritten []
  rw [List.append_nil] at hentries
  have hwrite : writeEntries w j.entries = (w₁, none) := hentries
  let flushed : Sink := { w₁ with written := w₁.written ++ w₁.buffer, buffer := [] }
  refine ⟨flushed, ?_, ?_⟩
  · rw [writeTo, hwrite]
    simp only [Sink.flush_of_accepts h₁, flushed]
  · rw [← hlanded, Sink.landed_of_accepts h₁, Sink.landed_of_accepts (w := flushed) h₁,
      List.append_nil]

end Writing

/-! ### Appending one journal -/

variable {storage : Storage} {path : String} {content : Bytes} {events : List (Event α)}
  {j : Journal α}

/-- What lands when a journal is written stands behind the content of the file. -/
theorem append_of_offers (h : storage.Offers path content) (j : Journal α) :
    (j.append storage path).1 = (j.writeTo (.fresh true)).2 ∧
      (j.append storage path).2.HasFile path (content ++ (j.writeTo (.fresh true)).1.landed) := by
  obtain ⟨location, opened, hopen, hlocation, hfile⟩ := h.exists_openFile
  have happend : j.append storage path = ((j.writeTo (.fresh true)).2,
      opened.addBytes location (j.writeTo (.fresh true)).1.landed) := by
    simp only [append, hopen, Storage.accepts_of_file hfile]
  rw [happend]
  exact ⟨rfl, Storage.hasFile_addBytes hlocation hfile _⟩

/-- **A journal whose items are not refused is appended line by line.** -/
theorem append_of_written (h : storage.Offers path content)
    (hwritten : ∀ event ∈ j.entries, event.write.refusal = none) :
    (j.append storage path).1 = .ok j.length ∧
      (j.append storage path).2.HasFile path (content ++ linesOf j.entries) := by
  obtain ⟨w, hwrite, hlanded⟩ := exists_writeTo (w := .fresh true) rfl hwritten
  have happend := append_of_offers h j
  rwa [hwrite, hlanded, Sink.landed_fresh, List.nil_append] at happend

/-- A file to which journals can be appended: it is missing, or all its lines are ended and hold
these events. -/
inductive Ready (storage : Storage) (path : String) : List (Event α) → Prop where
  /-- There is no file yet. -/
  | missing {location : Location} (hlocation : storage.fileLocation path = .ok location)
      (hnone : storage.node? location = none) : Ready storage path []
  /-- There is a file that can be read. -/
  | present {content : Bytes} {events : List (Event α)} (hfile : storage.HasFile path content)
      (hends : EndsLine content) (hread : readFile storage path = .ok events) :
      Ready storage path events

theorem readFile_of_hasFile (h : storage.HasFile path content) :
    (readFile storage path : Except Failure (List (Event α))) = parse content := by
  rw [readFile, h.content_eq]

theorem Ready.exists_content (h : Ready storage path events) :
    ∃ content, storage.Offers path content ∧ EndsLine content ∧ parse content = .ok events := by
  cases h with
  | missing hlocation hnone => exact ⟨[], .missing hlocation hnone, endsLine_nil, rfl⟩
  | @present content _ hfile hends hread =>
    exact ⟨content, .file hfile, hends, readFile_of_hasFile (α := α) hfile ▸ hread⟩

theorem Ready.readFile (h : Ready storage path events) (hfile : storage.HasFile path content) :
    Journal.readFile storage path = .ok events := by
  cases h with
  | @missing location hlocation hnone =>
    -- Nothing cannot stand where a file does.
    obtain ⟨location', hlocation', hsome⟩ := hfile
    obtain rfl := Except.ok.inj (hlocation.symm.trans hlocation')
    rw [hnone] at hsome
    cases hsome
  | present _ _ hread => exact hread

/-- So many lines have been added to a file, and nothing else has changed in it. -/
def GainsLines (before after : Storage) (path : String) (n : Nat) : Prop :=
  ∃ content added, before.Offers path content ∧ after.HasFile path (content ++ added) ∧
    added.count lineFeed = n

/-- **Appending a journal leaves the file ready**, with the events of the journal behind those that
were there. -/
theorem Ready.append (faithful : Item.Faithful α) (h : Ready storage path events)
    (hevents : ∀ event ∈ j.entries, event.InRange ∧ event.write.refusal = none) :
    (j.append storage path).1 = .ok j.length ∧
      GainsLines storage (j.append storage path).2 path j.length ∧
      Ready (j.append storage path).2 path (events ++ j.entries) := by
  obtain ⟨content, hoffers, hends, hread⟩ := h.exists_content
  have hwritten : ∀ event ∈ j.entries, event.write.refusal = none :=
    fun event hmem ↦ (hevents event hmem).2
  obtain ⟨hanswer, hfile⟩ := append_of_written hoffers hwritten
  have hparse := parse_append_linesOf faithful hends hread hevents
  refine ⟨hanswer, ⟨content, _, hoffers, hfile, count_lineFeed_linesOf faithful _⟩, ?_⟩
  exact .present hfile (hends.append (endsLine_linesOf _))
    ((readFile_of_hasFile hfile).trans hparse)

/-! ### Appending one journal after the other -/

/-- Appends journals to the file at the end of a path, one after the other. -/
def appendAll (storage : Storage) (path : String) (journals : List (Journal α)) : Storage :=
  journals.foldl (fun storage j ↦ (j.append storage path).2) storage

theorem appendAll_concat (storage : Storage) (path : String) (journals : List (Journal α))
    (j : Journal α) : appendAll storage path (journals ++ [j]) =
      (j.append (appendAll storage path journals) path).2 :=
  List.foldl_append

theorem Ready.appendAll (faithful : Item.Faithful α) (h : Ready storage path events)
    {journals : List (Journal α)} (hevents : ∀ j ∈ journals, ∀ event ∈ j.entries,
      event.InRange ∧ event.write.refusal = none) :
    Ready (Journal.appendAll storage path journals) path
      (events ++ journals.flatMap Journal.entries) := by
  induction journals generalizing storage events with
  | nil => rwa [List.flatMap_nil, List.append_nil]
  | cons j journals ih =>
    obtain ⟨hj, hjournals⟩ := List.forall_mem_cons.1 hevents
    obtain ⟨-, -, hready⟩ := h.append faithful hj
    rw [List.flatMap_cons, ← List.append_assoc]
    exact ih hready hjournals

/-- An item of a kind that is never refused does not stop the writing of an event. -/
theorem refusal_eq_none (plain : Item.Plain α) (event : Event α) : event.write.refusal = none := by
  rw [Event.write]
  cases hitem : event.item with
  | none => rfl
  | some item =>
    obtain ⟨pieces, hpieces⟩ := plain.exists_write item
    simp only [hpieces]

/-- **Everything that was appended is read back.** Texts, signed integers and bytes can be the
items, and the texts of items and workers may hold any characters. Every journal is answered with
the number of its events, which is also the number of lines that the file gains; in the end the
file has the events that were there and then those of all journals in order. -/
theorem readFile_appendAll (plain : Item.Plain α) (hready : Ready storage path events)
    {journals : List (Journal α)} (hrange : ∀ j ∈ journals, ∀ event ∈ j.entries, event.InRange)
    (hthere : journals ≠ [] ∨ ∃ content, storage.HasFile path content) :
    (∀ before j after, journals = before ++ j :: after →
      (j.append (appendAll storage path before) path).1 = .ok j.length ∧
        GainsLines (appendAll storage path before) (appendAll storage path (before ++ [j])) path
          j.length) ∧
      readFile (appendAll storage path journals) path =
        .ok (events ++ journals.flatMap Journal.entries) := by
  have hgood : ∀ j ∈ journals, ∀ event ∈ j.entries,
      event.InRange ∧ event.write.refusal = none :=
    fun j hj event hmem ↦ ⟨hrange j hj event hmem, refusal_eq_none plain event⟩
  have hstep : ∀ before j after, journals = before ++ j :: after →
      (j.append (appendAll storage path before) path).1 = .ok j.length ∧
        GainsLines (appendAll storage path before) (appendAll storage path (before ++ [j])) path
          j.length := by
    rintro before j after rfl
    have hbefore := hready.appendAll plain.faithful
      fun other hmem ↦ hgood other (List.mem_append_left _ hmem)
    obtain ⟨hanswer, hgains, -⟩ := hbefore.append plain.faithful
      (hgood j (List.mem_append_right _ List.mem_cons_self))
    exact ⟨hanswer, appendAll_concat storage path before j ▸ hgains⟩
  refine ⟨hstep, ?_⟩
  have hfile : ∃ content, (appendAll storage path journals).HasFile path content := by
    by_cases hnil : journals = []
    · rw [hnil]
      exact hthere.resolve_left (absurd hnil)
    · have hlast := List.dropLast_concat_getLast hnil
      obtain ⟨-, content, added, -, hfile, -⟩ := hstep _ _ [] hlast.symm
      rw [hlast] at hfile
      exact ⟨_, hfile⟩
  obtain ⟨content, hfile⟩ := hfile
  exact (hready.appendAll plain.faithful hgood).readFile hfile

/-- Two journals whose texts hold quotation marks, backslashes, a byte order mark and all sorts of
line breaks are appended to a file that is missing. -/
theorem readFile_appendAll_unruly :
    let first : Event String :=
      .enqueue ⟨18446744073709551615, 7⟩ "a\"\r\n" "\\\u0085\u2028\n" (some 0)
    let second : Event String := .dequeue ⟨2, 8⟩ "\ufeff" none
    let journals : List (Journal String) := [⟨[first, second]⟩, ⟨[second]⟩]
    Ready Storage.fresh "j" ([] : List (Event String)) ∧
      (∀ j ∈ journals, ∀ event ∈ j.entries, event.InRange) ∧
      ((⟨[first, second]⟩ : Journal String).append Storage.fresh "j").1 = .ok 2 ∧
      readFile (appendAll Storage.fresh "j" journals) "j" = .ok [first, second, second] := by
  intro first second journals
  have hlocation : Storage.fresh.fileLocation "j" = .ok ["work", "here", "j"] := rfl
  have hmissing : Ready Storage.fresh "j" ([] : List (Event String)) := .missing hlocation rfl
  have hrange : ∀ j ∈ journals, ∀ event ∈ j.entries, event.InRange := by decide
  obtain ⟨hanswers, hread⟩ :=
    readFile_appendAll .text hmissing hrange (.inl (List.cons_ne_nil _ _))
  obtain ⟨hanswer, -⟩ := hanswers [] ⟨[first, second]⟩ [⟨[second]⟩] rfl
  exact ⟨hmissing, hrange, hanswer, hread⟩

end QueueJournal.Journal
