import QueueJournal.Proofs.Journal.RoundTrip
import QueueJournal.Proofs.Json.Tokens

/-!
# Journals on a full device

A full device refuses whatever is written to it, but the buffer in front of it takes 8192 bytes
before it has to be written. So appending a journal to a full device fails when the byte behind
those is put, and otherwise when the buffer is written at the end (`exists_writeEntries_of_full`,
`writeEntries_of_room`).

What is reported depends on where that byte stands. If it belongs to an event, the failure is that
an event could not be written; only if it is the line feed behind an event, or if there is no such
byte, the failure is that of the device (`append_of_full`). So the fault of a device is not always
reported as one (`not_storage_of_full`).
-/

namespace QueueJournal

namespace Storage

namespace Sink

variable {w : Sink} {piece : Bytes} {pieces : List Bytes}

/-- A sink with more bytes in its buffer. -/
def holding (w : Sink) (bytes : Bytes) : Sink :=
  { w with buffer := w.buffer ++ bytes }

@[simp]
theorem length_buffer_holding (w : Sink) (bytes : Bytes) :
    (w.holding bytes).buffer.length = w.buffer.length + bytes.length :=
  List.length_append

@[simp]
theorem holding_nil (w : Sink) : w.holding [] = w := by
  rw [holding, List.append_nil]

@[simp]
theorem holding_holding (w : Sink) (bytes more : Bytes) :
    (w.holding bytes).holding more = w.holding (bytes ++ more) := by
  rw [holding, holding, holding, List.append_assoc]

theorem deliver_of_full (h : w.accepts = false) {bytes : Bytes} (hne : bytes ≠ []) :
    w.deliver bytes = .error .noSpace := by
  rw [deliver, if_neg (by simpa using hne), if_neg (by simp [h])]

theorem flush_of_full (h : w.accepts = false) (hne : w.buffer ≠ []) :
    w.flush = .error .noSpace := by
  rw [flush, deliver_of_full h hne]
  rfl

theorem keep_of_full (h : w.accepts = false) (hlong : capacity ≤ piece.length) :
    w.keep piece = .error .noSpace := by
  have hne : piece ≠ [] := by
    rintro rfl
    exact absurd hlong (by decide)
  rw [keep, if_pos hlong, deliver_of_full h hne]

/-- A piece that leaves room in the buffer, or just fills it, is kept there. -/
theorem put_of_room (hshort : piece.length < capacity)
    (hroom : w.buffer.length + piece.length ≤ capacity) : w.put piece = .ok (w.holding piece) := by
  rw [put_eq, if_neg (Nat.not_lt.2 hroom), keep, if_neg (Nat.not_le.2 hshort), ite_self, holding]

/-- On a full device a piece is kept in the buffer, or the fault is noticed. -/
theorem put_of_full (h : w.accepts = false) (piece : Bytes) :
    w.put piece = .error .noSpace ∨
      (w.buffer.length + piece.length ≤ capacity ∧ w.put piece = .ok (w.holding piece)) := by
  rcases Nat.lt_or_ge capacity (w.buffer.length + piece.length) with hover | hroom
  · left
    rw [put_eq, if_neg (by omega), if_pos hover]
    by_cases hempty : w.buffer = []
    · -- There is nothing to write in front of the piece, which is longer than the buffer.
      have hflush : w.flush = .ok { w with buffer := [] } := by rw [flush, hempty]; rfl
      rw [hflush]
      exact keep_of_full h (by simpa [hempty] using Nat.le_of_lt hover)
    · rw [flush_of_full h hempty]
      rfl
  · rcases Nat.lt_or_ge piece.length capacity with hshort | hlong
    · exact .inr ⟨hroom, put_of_room hshort hroom⟩
    · left
      rw [put_eq, if_neg (by omega), if_neg (by omega), keep_of_full h hlong]

theorem putAll_of_room (hshort : ∀ piece ∈ pieces, piece.length < capacity)
    (hroom : w.buffer.length + pieces.flatten.length ≤ capacity) :
    w.putAll pieces = (w.holding pieces.flatten, none) := by
  induction pieces generalizing w with
  | nil => rw [putAll, List.flatten_nil, holding_nil]
  | cons piece pieces ih =>
    rw [List.flatten_cons, List.length_append] at hroom
    obtain ⟨hpiece, hpieces⟩ := List.forall_mem_cons.1 hshort
    have hrest : (w.holding piece).buffer.length + pieces.flatten.length ≤ capacity := by
      rw [length_buffer_holding]
      omega
    rw [putAll, put_of_room hpiece (by omega), List.flatten_cons, ← holding_holding]
    exact ih hpieces hrest

/-- **Pieces that overrun the buffer** make the fault of a full device noticed. -/
theorem exists_putAll_of_full (h : w.accepts = false) (hle : w.buffer.length ≤ capacity)
    (hover : capacity < w.buffer.length + pieces.flatten.length) :
    ∃ w', w.putAll pieces = (w', some .noSpace) := by
  induction pieces generalizing w with
  | nil => exact absurd hover (by simpa using hle)
  | cons piece pieces ih =>
    rw [List.flatten_cons, List.length_append] at hover
    rw [putAll]
    rcases put_of_full h piece with herror | ⟨hroom, hput⟩
    · rw [herror]
      exact ⟨w, rfl⟩
    · rw [hput]
      refine ih h ?_ ?_
      · rwa [length_buffer_holding]
      · rw [length_buffer_holding]
        omega

end Sink

variable {t opened : Storage} {text : String} {location : Location}

/-- What is opened on a full device was there before. -/
theorem eq_of_openFile (hopen : t.openFile text = .ok (location, opened))
    (hfull : opened.accepts location = false) : opened = t := by
  rw [openFile] at hopen
  cases hlocation : t.fileLocation text with
  | error fault => simp [hlocation, bind, Except.bind] at hopen
  | ok target =>
    simp only [hlocation, bind, Except.bind] at hopen
    cases hnode : t.node? target with
    | some node =>
      simp only [hnode, Except.ok.injEq, Prod.mk.injEq] at hopen
      exact hopen.2.symm
    | none =>
      -- A file that has been made takes bytes.
      simp only [hnode, Except.ok.injEq, Prod.mk.injEq] at hopen
      obtain ⟨rfl, rfl⟩ := hopen
      have hfile := node?_put_self (t := t) (ne_nil_of_fileLocation hlocation) (.file [])
      rw [accepts_of_file hfile] at hfull
      cases hfull

/-- A full device keeps nothing. -/
theorem addBytes_of_full (hfull : t.accepts location = false) (bytes : Bytes) :
    t.addBytes location bytes = t := by
  rw [accepts, bne_eq_false_iff_eq] at hfull
  rw [addBytes, hfull]

end Storage

namespace Journal

open Storage (Sink)

variable {α : Type} [Item α] {w : Sink} {storage opened : Storage} {path : String}
  {location : Location} {event : Event α} {events : List (Event α)} {j : Journal α} {n : Nat}

/-! ### Where the buffer is overrun -/

/-- So many bytes are the lines of the first few events. -/
def BreaksAt (events : List (Event α)) (n : Nat) : Prop :=
  ∃ before, before <+: events ∧ (linesOf before).length = n

/-- The buffer has room for the lines of all events, or the line feed behind one of them is the
first byte for which it has none. -/
def OverrunBetween (events : List (Event α)) : Prop :=
  (linesOf events).length ≤ Sink.capacity ∨ BreaksAt events (Sink.capacity + 1)

theorem length_lineOf (event : Event α) :
    (lineOf event).length = (Text.encode event.write.pieces.flatten).length + 1 := by
  rw [lineOf, List.length_append, List.length_singleton]

theorem linesOf_cons (event : Event α) (events : List (Event α)) :
    linesOf (event :: events) = lineOf event ++ linesOf events :=
  List.flatMap_cons

theorem length_linesOf_cons (event : Event α) (events : List (Event α)) :
    (linesOf (event :: events)).length = (lineOf event).length + (linesOf events).length := by
  rw [linesOf_cons, List.length_append]

theorem breaksAt_zero (events : List (Event α)) : BreaksAt events 0 :=
  ⟨[], List.nil_prefix, rfl⟩

theorem breaksAt_cons_iff (hpos : 0 < n) : BreaksAt (event :: events) n ↔
    (lineOf event).length ≤ n ∧ BreaksAt events (n - (lineOf event).length) := by
  constructor
  · rintro ⟨before, hprefix, hlength⟩
    rcases List.prefix_cons_iff.1 hprefix with rfl | ⟨rest, rfl, hrest⟩
    · exact absurd hlength (Nat.ne_of_lt hpos)
    · rw [length_linesOf_cons] at hlength
      exact ⟨by omega, rest, hrest, by omega⟩
  · rintro ⟨hle, before, hprefix, hlength⟩
    refine ⟨event :: before, List.cons_prefix_cons.2 ⟨rfl, hprefix⟩, ?_⟩
    rw [length_linesOf_cons]
    omega

/-- A single event whose line is longer overruns the buffer before its end. -/
theorem not_overrunBetween_singleton (hlong : Sink.capacity + 1 < (lineOf event).length) :
    ¬ OverrunBetween [event] := by
  rintro (hle | hbreaks)
  · rw [length_linesOf_cons] at hle
    omega
  · have hle := ((breaksAt_cons_iff (Nat.succ_pos _)).1 hbreaks).1
    omega

theorem length_le_length_flatMap_writeChar (s : List Char) :
    s.length ≤ (s.flatMap Json.writeChar).length := by
  induction s with
  | nil => exact Nat.le_refl 0
  | cons c s ih =>
    have hpos : 0 < (Json.writeChar c).length := by
      rw [Json.writeChar]
      cases hescape : Json.escape? c with
      | none => exact Nat.one_pos
      | some e =>
        rw [Json.escape?] at hescape
        split_ifs at hescape <;> exact Option.some.inj hescape ▸ Nat.succ_pos _
    rw [List.flatMap_cons, List.length_append, List.length_cons]
    omega

/-- The line of a text that was put is longer than the text by more than its quotation marks. -/
theorem length_lt_length_lineOf (stamp : Stamp) (worker text : String) (index : Option Nat) :
    text.toList.length + 2 < (lineOf (.enqueue stamp worker text index)).length := by
  have hitem : text.toList.length + 2 ≤ (Json.stringPieces text.toList).flatten.length := by
    have hle := length_le_length_flatMap_writeChar text.toList
    simp only [Json.flatten_stringPieces, List.length_append, List.length_cons, List.length_nil]
    omega
  have hpieces : (Json.stringPieces text.toList).flatten.length ≤
      (Event.enqueue stamp worker text index).write.pieces.flatten.length := by
    simp only [Event.write, Event.enqueue, Item.write, Event.fieldPieces, List.flatten_append,
      List.length_append]
    omega
  have hbytes := Json.length_le_byteCount
    (Event.enqueue stamp worker text index).write.pieces.flatten
  rw [← Text.length_encode] at hbytes
  rw [length_lineOf]
  omega

/-- A text of 8192 characters overruns the buffer before the end of its line. -/
theorem not_overrunBetween_long (stamp : Stamp) (worker : String) (index : Option Nat) :
    ¬ OverrunBetween
      [Event.enqueue stamp worker (String.ofList (List.replicate 8192 'a')) index] := by
  apply not_overrunBetween_singleton
  have hlt := length_lt_length_lineOf stamp worker (String.ofList (List.replicate 8192 'a')) index
  rw [String.toList_ofList, List.length_replicate] at hlt
  exact Nat.lt_of_succ_lt hlt

/-! ### Writing to a full device -/

/-- An event begins with a brace, which is a piece of its own. -/
theorem exists_pieces_eq_cons (event : Event α) :
    ∃ pieces, event.write.pieces = ['\x7b'] :: pieces := by
  rw [Event.write]
  split
  case h_1 => exact ⟨_, rfl⟩
  case h_2 => split <;> exact ⟨_, rfl⟩

/-- The pieces of an event that fit into the buffer are kept there. Since the first of them is a
brace, none is as long as the buffer. -/
theorem putAll_write_of_room
    (hroom : w.buffer.length + (Text.encode event.write.pieces.flatten).length ≤ Sink.capacity) :
    w.putAll (event.write.pieces.map Text.encode) =
      (w.holding (Text.encode event.write.pieces.flatten), none) := by
  rw [← flatten_map_encode] at hroom ⊢
  refine Sink.putAll_of_room ?_ hroom
  obtain ⟨pieces, hpieces⟩ := exists_pieces_eq_cons event
  rw [hpieces, List.map_cons, List.flatten_cons, List.length_append] at hroom
  rw [hpieces, List.map_cons]
  refine List.forall_mem_cons.2 ⟨by decide, fun piece hmem ↦ ?_⟩
  have hle := (List.sublist_flatten_of_mem hmem).length_le
  have hbrace : (Text.encode ['\x7b']).length = 1 := rfl
  omega

/-- Lines that fit into the buffer are kept there. -/
theorem writeEntries_of_room (hwritten : ∀ event ∈ events, event.write.refusal = none)
    (hroom : w.buffer.length + (linesOf events).length ≤ Sink.capacity) :
    writeEntries w events = (w.holding (linesOf events), none) := by
  induction events generalizing w with
  | nil => rw [writeEntries, linesOf, List.flatMap_nil, Sink.holding_nil]
  | cons event events ih =>
    obtain ⟨hevent, hevents⟩ := List.forall_mem_cons.1 hwritten
    rw [length_linesOf_cons, length_lineOf] at hroom
    have hpieces : w.putAll (event.write.pieces.map Text.encode) =
        (w.holding (Text.encode event.write.pieces.flatten), none) :=
      putAll_write_of_room (by omega)
    have hend : (w.holding (Text.encode event.write.pieces.flatten)).put [lineFeed] =
        .ok (w.holding (lineOf event)) := by
      rw [Sink.put_of_room (by decide), Sink.holding_holding, lineOf]
      rw [Sink.length_buffer_holding, List.length_singleton]
      omega
    have hrest := ih (w := w.holding (lineOf event)) hevents
      (by rw [Sink.length_buffer_holding, length_lineOf]; omega)
    rw [writeEntries]
    simp only [hpieces, hevent, hend, hrest, Sink.holding_holding, linesOf_cons]

/-- **Lines that overrun the buffer** make the fault of a full device noticed. It is reported as
such if the line feed behind an event is the first byte for which there is no room. -/
theorem exists_writeEntries_of_full (h : w.accepts = false)
    (hwritten : ∀ event ∈ events, event.write.refusal = none)
    (hle : w.buffer.length ≤ Sink.capacity)
    (hover : Sink.capacity < w.buffer.length + (linesOf events).length) :
    ∃ w' failure, writeEntries w events = (w', some failure) ∧
      ((BreaksAt events (Sink.capacity + 1 - w.buffer.length) ∧ failure = .storage .noSpace) ∨
        (¬ BreaksAt events (Sink.capacity + 1 - w.buffer.length) ∧
          failure = .record (.device .noSpace))) := by
  induction events generalizing w with
  | nil => exact absurd hover (Nat.not_lt.2 hle)
  | cons event events ih =>
    obtain ⟨hevent, hevents⟩ := List.forall_mem_cons.1 hwritten
    have hline := length_lineOf event
    rw [length_linesOf_cons] at hover
    rw [breaksAt_cons_iff (by omega), writeEntries]
    rcases Nat.lt_or_ge Sink.capacity
      (w.buffer.length + (Text.encode event.write.pieces.flatten).length) with hinside | hroom
    · -- The buffer is overrun inside the event.
      have hlong : ¬ (lineOf event).length ≤ Sink.capacity + 1 - w.buffer.length := by omega
      rw [← flatten_map_encode] at hinside
      obtain ⟨w', hput⟩ := Sink.exists_putAll_of_full h hle hinside
      simp only [hput]
      exact ⟨w', _, rfl, .inr ⟨fun hbreaks ↦ hlong hbreaks.1, rfl⟩⟩
    · simp only [putAll_write_of_room hroom, hevent]
      have hshort : (lineOf event).length ≤ Sink.capacity + 1 - w.buffer.length := by omega
      rw [and_iff_right hshort]
      let kept := w.holding (Text.encode event.write.pieces.flatten)
      have hkept : kept.buffer.length + 1 = w.buffer.length + (lineOf event).length := by
        rw [Sink.length_buffer_holding]
        omega
      rcases Nat.lt_or_ge Sink.capacity (kept.buffer.length + 1) with hfull | hfits
      · -- The event has filled the buffer, so its line feed overruns it.
        have hput : kept.put [lineFeed] = .error .noSpace :=
          (Sink.put_of_full (w := kept) h [lineFeed]).resolve_right
            fun hkeeps ↦ Nat.not_lt.2 hkeeps.1 hfull
        have hzero : Sink.capacity + 1 - w.buffer.length - (lineOf event).length = 0 := by omega
        simp only [kept] at hput
        simp only [hput, hzero]
        exact ⟨_, _, rfl, .inl ⟨breaksAt_zero events, rfl⟩⟩
      · have hput : kept.put [lineFeed] = .ok (w.holding (lineOf event)) := by
          rw [Sink.put_of_room (by decide) hfits, Sink.holding_holding, lineOf]
        have hlength := w.length_buffer_holding (lineOf event)
        simp only [kept] at hput
        simp only [hput]
        rw [Nat.sub_sub, ← hlength]
        exact ih h hevents (by omega) (by omega)

/-- What is reported when a journal is written to a full device. -/
theorem writeTo_of_full (hsome : j.entries ≠ [])
    (hwritten : ∀ event ∈ j.entries, event.write.refusal = none) :
    (OverrunBetween j.entries ∧ (j.writeTo (.fresh false)).2 = .error (.storage .noSpace)) ∨
      (¬ OverrunBetween j.entries ∧
        (j.writeTo (.fresh false)).2 = .error (.record (.device .noSpace))) := by
  have hempty : (Sink.fresh false).buffer.length = 0 := rfl
  rw [writeTo]
  rcases Nat.lt_or_ge Sink.capacity (linesOf j.entries).length with hover | hroom
  · obtain ⟨w', failure, hwrite, hfailure⟩ :=
      exists_writeEntries_of_full (w := .fresh false) rfl hwritten (Nat.zero_le _) (by omega)
    have hiff : OverrunBetween j.entries ↔ BreaksAt j.entries (Sink.capacity + 1) :=
      or_iff_right (Nat.not_le.2 hover)
    rw [hempty, Nat.sub_zero] at hfailure
    rw [hwrite, hiff]
    rcases hfailure with ⟨hbreaks, rfl⟩ | ⟨hbreaks, rfl⟩
    · exact .inl ⟨hbreaks, rfl⟩
    · exact .inr ⟨hbreaks, rfl⟩
  · -- All lines wait in the buffer, which is written at the end.
    have hlines : ((Sink.fresh false).holding (linesOf j.entries)).buffer ≠ [] := by
      obtain ⟨event, events, hentries⟩ := List.exists_cons_of_ne_nil hsome
      rw [hentries, ← List.length_pos_iff, Sink.length_buffer_holding, length_linesOf_cons,
        length_lineOf]
      omega
    rw [writeEntries_of_room hwritten (by omega)]
    simp only
    rw [Sink.flush_of_full rfl hlines]
    exact .inl ⟨.inl hroom, rfl⟩

/-! ### Appending to a full device -/

theorem append_eq_of_full (hopen : storage.openFile path = .ok (location, opened))
    (hfull : opened.accepts location = false) (j : Journal α) :
    j.append storage path = ((j.writeTo (.fresh false)).2, storage) := by
  obtain rfl := Storage.eq_of_openFile hopen hfull
  rw [append, hopen]
  simp only [hfull, Storage.addBytes_of_full hfull]

/-- **What is reported when a journal is appended to a full device.** The files stay as they are.
The failure is that of the device if the lines fit into the buffer, or if the line feed behind an
event is the first byte that does not; otherwise it is that an event could not be written. -/
theorem append_of_full (hopen : storage.openFile path = .ok (location, opened))
    (hfull : opened.accepts location = false) (hsome : j.entries ≠ [])
    (hwritten : ∀ event ∈ j.entries, event.write.refusal = none) :
    (j.append storage path).2 = storage ∧
      (OverrunBetween j.entries → (j.append storage path).1 = .error (.storage .noSpace)) ∧
      (¬ OverrunBetween j.entries →
        (j.append storage path).1 = .error (.record (.device .noSpace))) := by
  rw [append_eq_of_full hopen hfull]
  rcases writeTo_of_full hsome hwritten with ⟨hbetween, htold⟩ | ⟨hinside, htold⟩
  · exact ⟨rfl, fun _ ↦ htold, fun hinside ↦ absurd hbetween hinside⟩
  · exact ⟨rfl, fun hbetween ↦ absurd hbetween hinside, fun _ ↦ htold⟩

/-- A small journal waits in the buffer, and one with a long text overruns it inside an event. -/
theorem append_of_full_long :
    let short : Journal String := ⟨[.enqueue ⟨1, 0⟩ "w" "a" (some 0)]⟩
    let long : Journal String :=
      ⟨[.enqueue ⟨1, 0⟩ "w" (String.ofList (List.replicate 8192 'a')) (some 0)]⟩
    (∃ location, Storage.fresh.openFile "/dev/full" = .ok (location, Storage.fresh) ∧
      Storage.fresh.accepts location = false) ∧
    (∀ event ∈ short.entries ++ long.entries, event.write.refusal = none) ∧
    OverrunBetween short.entries ∧ ¬ OverrunBetween long.entries ∧
    short.append Storage.fresh "/dev/full" = (.error (.storage .noSpace), Storage.fresh) ∧
    long.append Storage.fresh "/dev/full" =
      (.error (.record (.device .noSpace)), Storage.fresh) := by
  intro short long
  have hopen : Storage.fresh.openFile "/dev/full" = .ok (["dev", "full"], Storage.fresh) := rfl
  have hfull : Storage.fresh.accepts ["dev", "full"] = false := rfl
  have hbetween : OverrunBetween short.entries := .inl (by decide)
  have hinside : ¬ OverrunBetween long.entries := not_overrunBetween_long _ _ _
  have hwritten : ∀ event ∈ short.entries ++ long.entries, event.write.refusal = none :=
    fun event _ ↦ refusal_eq_none .text event
  obtain ⟨hshort, htold, -⟩ := append_of_full (j := short) hopen hfull (List.cons_ne_nil _ _)
    fun event hmem ↦ hwritten event (List.mem_append_left _ hmem)
  obtain ⟨hlong, -, htold'⟩ := append_of_full (j := long) hopen hfull (List.cons_ne_nil _ _)
    fun event hmem ↦ hwritten event (List.mem_append_right _ hmem)
  exact ⟨⟨_, hopen, hfull⟩, hwritten, hbetween, hinside, Prod.ext (htold hbetween) hshort,
    Prod.ext (htold' hinside) hlong⟩

/-- **A full device is not always reported as one**, although each event can be written: a text of
8192 characters is too long to wait in the buffer. -/
theorem not_storage_of_full :
    ¬ ∀ (storage opened : Storage) (path : String) (location : Location) (j : Journal String),
      storage.openFile path = .ok (location, opened) → opened.accepts location = false →
      j.entries ≠ [] → (∀ event ∈ j.entries, event.write.refusal = none) →
      ∃ fault, (j.append storage path).1 = .error (.storage fault) := by
  intro h
  let long : Journal String :=
    ⟨[.enqueue ⟨1, 0⟩ "w" (String.ofList (List.replicate 8192 'a')) (some 0)]⟩
  have hopen : Storage.fresh.openFile "/dev/full" = .ok (["dev", "full"], Storage.fresh) := rfl
  have hwritten : ∀ event ∈ long.entries, event.write.refusal = none :=
    fun event _ ↦ refusal_eq_none .text event
  obtain ⟨fault, hstorage⟩ := h _ _ _ _ long hopen rfl (List.cons_ne_nil _ _) hwritten
  rw [append_eq_of_full hopen rfl] at hstorage
  rcases writeTo_of_full (List.cons_ne_nil _ _) hwritten with ⟨hbetween, -⟩ | ⟨-, htold⟩
  · exact not_overrunBetween_long _ _ _ hbetween
  · rw [htold] at hstorage
    cases hstorage

end Journal

end QueueJournal
