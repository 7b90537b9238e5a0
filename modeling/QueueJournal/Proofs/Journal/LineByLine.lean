import QueueJournal.Proofs.Journal.RoundTrip

/-!
# A journal is read line by line

Where one content follows another that ends its last line, the events of both are read one after
the other, and the first line that fails decides the failure (`readsLines`). What fails on a
line, and where, is told by the line alone. Blank lines count for nothing, and neither does a
carriage return in front of each line feed.

All of it comes down from the lines that a content is cut into: those of the first content and then
those of the second (`splitLines_append`), only blank ones for blanks (`exists_blank_of_mem`), and
the same ones with carriage returns (`splitLines_withReturns`).
-/

namespace QueueJournal.Journal

/-! ### Lines with other ends -/

/-- The content with a carriage return in front of each line feed. -/
def withReturns (content : Bytes) : Bytes :=
  content.flatMap fun b ↦ if b = lineFeed then [carriageReturn, lineFeed] else [b]

theorem withReturns_lineFeed (content : Bytes) :
    withReturns (lineFeed :: content) = carriageReturn :: lineFeed :: withReturns content := rfl

theorem withReturns_cons {b : UInt8} (hb : b ≠ lineFeed) (content : Bytes) :
    withReturns (b :: content) = b :: withReturns content := by
  simp [withReturns, hb]

/-- **Carriage returns in front of the line feeds change no line.** -/
theorem splitLines_withReturns {content : Bytes} (h : carriageReturn ∉ content) :
    splitLines (withReturns content) = splitLines content := by
  induction content with
  | nil => rfl
  | cons b content ih =>
    obtain ⟨hb, hcontent⟩ := not_or.1 (mt List.mem_cons.2 h)
    by_cases hfeed : b = lineFeed
    · rw [hfeed, withReturns_lineFeed, splitLines_return, splitLines_lineFeed, ih hcontent]
    · have hpair : ∀ b', ¬ (b = carriageReturn ∧ b' = lineFeed) := fun _ h ↦ hb h.1.symm
      rw [withReturns_cons hfeed]
      cases content with
      | nil => rfl
      | cons b' content =>
        rw [splitLines_cons hfeed (hpair b'), ← ih hcontent]
        by_cases hfeed' : b' = lineFeed
        · rw [hfeed', withReturns_lineFeed, splitLines_cons hfeed (hpair _)]
        · rw [withReturns_cons hfeed', splitLines_cons hfeed (hpair _)]

/-! ### Blank lines -/

theorem foldr_consLine (front line : Bytes) (lines : List Bytes) :
    front.foldr consLine (line :: lines) = (front ++ line) :: lines := by
  induction front with
  | nil => rfl
  | cons b front ih => rw [List.foldr_cons, ih]; rfl

/-- What holds no line feed belongs to the line that it stands in front of. -/
theorem splitLines_append_cons {front : Bytes} {b : UInt8} (hfront : lineFeed ∉ front)
    (hpair : carriageReturn ∈ front → b ≠ lineFeed) (content : Bytes) :
    splitLines (front ++ b :: content) = front.foldr consLine (splitLines (b :: content)) := by
  induction front with
  | nil => rfl
  | cons a front ih =>
    obtain ⟨ha, hfront⟩ := not_or.1 (mt List.mem_cons.2 hfront)
    have hrest := ih hfront fun hmem ↦ hpair (List.mem_cons_of_mem _ hmem)
    rw [List.foldr_cons, ← hrest]
    cases front with
    | nil =>
      exact splitLines_cons (Ne.symm ha) fun h ↦ hpair (h.1 ▸ List.mem_cons_self) h.2
    | cons a' front =>
      have ha' : lineFeed ≠ a' := (not_or.1 (mt List.mem_cons.2 hfront)).1
      exact splitLines_cons (Ne.symm ha) fun h ↦ ha' h.2.symm

/-- A line that a character stands before is a line of what follows the character, or begins with
the character. -/
theorem mem_splitLines_encode_cons {c : Char} {s : List Char} {line : Bytes}
    (hline : line ∈ splitLines (Text.encode (c :: s))) :
    line = [] ∨ line = Text.encode [c] ∨ line ∈ splitLines (Text.encode s) ∨
      ∃ first ∈ splitLines (Text.encode s), line = String.utf8EncodeChar c ++ first := by
  by_cases hfeed : c = '\n'
  · have hsplit : splitLines (Text.encode ('\n' :: s)) = [] :: splitLines (Text.encode s) :=
      splitLines_lineFeed _
    rw [hfeed, hsplit] at hline
    exact (List.mem_cons.1 hline).imp_right fun h ↦ .inr (.inl h)
  · have hbytes : lineFeed ∉ String.utf8EncodeChar c := fun h ↦
      hfeed (eq_ofNat_of_mem_utf8EncodeChar (by decide) h)
    cases hs : Text.encode s with
    | nil =>
      cases hc : String.utf8EncodeChar c with
      | nil => exact absurd hc (by simp)
      | cons b front =>
        rw [Text.encode_cons, hs, List.append_nil, hc, splitLines_unended (hc ▸ hbytes),
          ← hc] at hline
        exact .inr (.inl (by simpa using hline))
    | cons b bytes =>
      by_cases hpair : carriageReturn ∈ String.utf8EncodeChar c ∧ b = lineFeed
      · -- The two end a line together, as the second alone would.
        obtain ⟨hreturn, rfl⟩ := hpair
        obtain rfl : c = '\r' := eq_ofNat_of_mem_utf8EncodeChar (by decide) hreturn
        have hsplit : splitLines (Text.encode ('\r' :: s)) = splitLines (Text.encode s) := by
          rw [Text.encode_cons, hs, splitLines_lineFeed]
          exact splitLines_return bytes
        exact .inr (.inr (.inl (hs ▸ hsplit ▸ hline)))
      · rw [Text.encode_cons, hs, splitLines_append_cons hbytes fun h hb ↦ hpair ⟨h, hb⟩] at hline
        cases hlines : splitLines (b :: bytes) with
        | nil => exact absurd hlines (splitLines_ne_nil b bytes)
        | cons first lines =>
          rw [hlines, foldr_consLine] at hline
          rcases List.mem_cons.1 hline with rfl | hline
          · exact .inr (.inr (.inr ⟨first, List.mem_cons_self, rfl⟩))
          · exact .inr (.inr (.inl (List.mem_cons_of_mem _ hline)))

/-- **A text of blanks only is cut into lines of blanks only.** -/
theorem exists_blank_of_mem {s : List Char} (hs : Text.isAllBlank s = true) {line : Bytes}
    (hline : line ∈ splitLines (Text.encode s)) :
    ∃ t, Text.isAllBlank t = true ∧ line = Text.encode t := by
  induction s generalizing line with
  | nil => cases hline
  | cons c s ih =>
    obtain ⟨hc, hs⟩ : Text.isBlank c = true ∧ Text.isAllBlank s = true := by
      simpa [Text.isAllBlank_eq_all] using hs
    rcases mem_splitLines_encode_cons hline with rfl | rfl | hline | ⟨first, hfirst, rfl⟩
    · exact ⟨[], rfl, rfl⟩
    · exact ⟨[c], by simpa [Text.isAllBlank_eq_all] using hc, rfl⟩
    · exact ih hs hline
    · obtain ⟨t, ht, rfl⟩ := ih hs hfirst
      exact ⟨c :: t, by simpa [Text.isAllBlank_eq_all, hc] using ht, rfl⟩

/-! ### Reading one content behind the other -/

section Reading

variable {α : Type} [Item α]

theorem parseLine_of_isAllBlank {s : List Char} (hs : Text.isAllBlank s = true) :
    (parseLine (Text.encode s) : Except Failure (Option (Event α))) = .ok none := by
  rw [parseLine, Text.decode?_encode]
  exact if_pos hs

/-- Blank lines hold no events. -/
theorem parseLines_blank {lines : List Bytes}
    (h : ∀ line ∈ lines, ∃ s, Text.isAllBlank s = true ∧ line = Text.encode s) :
    (parseLines lines : Except Failure (List (Event α))) = .ok [] := by
  induction lines with
  | nil => rfl
  | cons line lines ih =>
    obtain ⟨⟨s, hs, rfl⟩, hlines⟩ := List.forall_mem_cons.1 h
    rw [parseLines, parseLine_of_isAllBlank hs, ih hlines]
    rfl

theorem parse_blank {s : List Char} (hs : Text.isAllBlank s = true) :
    (parse (Text.encode s) : Except Failure (List (Event α))) = .ok [] :=
  parseLines_blank fun _ hline ↦ exists_blank_of_mem hs hline

/-- **Blank lines between two contents count for nothing.** -/
theorem parse_append_blank {content blank more : Bytes} {s : List Char} (hends : EndsLine content)
    (hs : Text.isAllBlank s = true) (hblank : blank = Text.encode s)
    (hline : EndsLine blank ∨ more = []) :
    (parse (content ++ (blank ++ more)) : Except Failure (List (Event α))) =
      parse (content ++ more) := by
  have hmore : (parse (blank ++ more) : Except Failure (List (Event α))) = parse more := by
    rcases hline with hline | rfl
    · rw [parse_append hline (hblank ▸ parse_blank hs)]
      cases (parse more : Except Failure (List (Event α))) <;> rfl
    · rw [List.append_nil, hblank, parse_blank hs]
      rfl
  rw [parse_append_eq hends, parse_append_eq hends, hmore]

theorem parse_withReturns {content : Bytes} (h : carriageReturn ∉ content) :
    (parse (withReturns content) : Except Failure (List (Event α))) = parse content := by
  rw [parse, parse, splitLines_withReturns h]

/-! ### Lines that fail -/

/-- The content has this for its first line: up to a line feed, or a carriage return and a line
feed, or to the end. -/
inductive FirstLine (line : Bytes) : Bytes → Prop where
  /-- A line feed ends the line. -/
  | ended (more : Bytes) (hreturn : line.getLast? ≠ some carriageReturn) :
    FirstLine line (line ++ lineFeed :: more)
  /-- A carriage return and a line feed end the line. -/
  | returned (more : Bytes) : FirstLine line (line ++ carriageReturn :: lineFeed :: more)
  /-- Nothing follows the line. -/
  | last : FirstLine line line

theorem FirstLine.exists_splitLines {line content : Bytes} (h : FirstLine line content)
    (hline : lineFeed ∉ line) (hne : line ≠ []) :
    ∃ lines, splitLines content = line :: lines := by
  cases h with
  | ended more hreturn =>
    refine ⟨splitLines more, ?_⟩
    rw [List.append_cons, splitLines_append (endsLine_append_lineFeed line),
      splitLines_line hline hreturn]
    rfl
  | returned more =>
    refine ⟨splitLines more, ?_⟩
    have hreturn : carriageReturn ≠ lineFeed := by decide
    rw [splitLines_append_cons hline fun _ ↦ hreturn, splitLines_return, foldr_consLine,
      List.append_nil]
  | last =>
    obtain ⟨b, line, rfl⟩ := List.exists_cons_of_ne_nil hne
    exact ⟨[], splitLines_unended hline⟩

/-- A line that fails by itself is the failure of a content that begins with it. -/
theorem FirstLine.parse_eq_error {line content : Bytes} (h : FirstLine line content)
    (hline : lineFeed ∉ line) (hne : line ≠ []) {failure : Failure}
    (hfail : (parseLine line : Except Failure (Option (Event α))) = .error failure) :
    (parse content : Except Failure (List (Event α))) = .error failure := by
  obtain ⟨lines, hsplit⟩ := h.exists_splitLines hline hne
  exact Journal.parse_eq_error hsplit hfail

/-- A line that is no text is a failure of the storage. -/
theorem FirstLine.parse_eq_notText {line content : Bytes} (h : FirstLine line content)
    (hline : lineFeed ∉ line) (hdecode : Text.decode? line = none) :
    (parse content : Except Failure (List (Event α))) = .error (.storage .notText) := by
  have hne : line ≠ [] := by
    rintro rfl
    cases hdecode
  refine h.parse_eq_error hline hne ?_
  rw [parseLine, hdecode]

/-- A line that is no event is a fault of the record, with a column in that line. -/
theorem FirstLine.parse_eq_record {line content : Bytes} (h : FirstLine line content)
    (hline : lineFeed ∉ line) {s : List Char} (hdecode : Text.decode? line = some s)
    (hblank : Text.isAllBlank s = false) {fault : Json.Fault}
    (hevent : (Event.parse s : Except Json.Fault (Event α)) = .error fault) :
    (parse content : Except Failure (List (Event α))) =
      .error (.record (.line fault.cause (fault.column line.length))) := by
  have hne : line ≠ [] := by
    rintro rfl
    cases hdecode
    cases hblank
  refine h.parse_eq_error hline hne ?_
  rw [parseLine, hdecode]
  simp only [hblank, Bool.false_eq_true, if_false, hevent]

end Reading

/-! ### Reading a file -/

/-- What is read from a content is read line by line. -/
structure ReadsLines {α : Type} [Item α] (read : Bytes → Except Failure (List (Event α))) :
    Prop where
  /-- The first content that fails decides; else the events of both are handed out in order. -/
  append : ∀ {content : Bytes}, EndsLine content → ∀ more : Bytes,
    read (content ++ more) = do
      let events ← read content
      let others ← read more
      return events ++ others
  /-- A first line that is no text is a failure of the storage, whatever follows it. -/
  notText : ∀ {line content : Bytes}, FirstLine line content → lineFeed ∉ line →
    Text.decode? line = none → read content = .error (.storage .notText)
  /-- A first line that is no event is a fault of the record, whatever follows it. Its column is
  counted in that line. -/
  noEvent : ∀ {line content : Bytes}, FirstLine line content → lineFeed ∉ line →
    ∀ {s : List Char}, Text.decode? line = some s → Text.isAllBlank s = false →
    ∀ {fault : Json.Fault}, (Event.parse s : Except Json.Fault (Event α)) = .error fault →
    read content = .error (.record (.line fault.cause (fault.column line.length)))
  /-- Blank lines can be put where a line begins. -/
  blank : ∀ {content : Bytes}, EndsLine content → ∀ {s : List Char}, Text.isAllBlank s = true →
    ∀ {more : Bytes}, EndsLine (Text.encode s) ∨ more = [] →
    read (content ++ (Text.encode s ++ more)) = read (content ++ more)
  /-- Carriage returns can be put in front of all line feeds. -/
  returns : ∀ {content : Bytes}, carriageReturn ∉ content →
    read (withReturns content) = read content

/-- **A file is read line by line**, whatever its content and the kind of item. -/
theorem readsLines {α : Type} [Item α] {storage : Bytes → Storage} {path : String}
    (hfile : ∀ content, (storage content).HasFile path content) :
    ReadsLines fun content ↦
      (readFile (storage content) path : Except Failure (List (Event α))) := by
  have hread : (fun content ↦ (readFile (storage content) path :
      Except Failure (List (Event α)))) = parse :=
    funext fun content ↦ readFile_of_hasFile (hfile content)
  rw [hread]
  exact {
    append := parse_append_eq
    notText := FirstLine.parse_eq_notText
    noEvent := FirstLine.parse_eq_record
    blank := fun hends _ hs _ hline ↦ parse_append_blank hends hs rfl hline
    returns := parse_withReturns }

/-- Behind two blank lines, the second of them with a carriage return, a byte that belongs to no
text stops the reading in front of a line that holds no event either. -/
theorem readsLines_notText :
    let storage : Bytes → Storage :=
      fun content ↦ Storage.fresh.put ["work", "here", "j"] (.file content)
    (∀ content, (storage content).HasFile "j" content) ∧
      (readFile (storage ([10, 32, 13, 10] ++ [255, 10, 93])) "j" :
        Except Failure (List (Event String))) = .error (.storage .notText) := by
  intro storage
  have hfile : ∀ content, (storage content).HasFile "j" content :=
    fun content ↦ ⟨["work", "here", "j"], rfl, rfl⟩
  have hlines : ReadsLines fun content ↦
      (readFile (storage content) "j" : Except Failure (List (Event String))) := readsLines hfile
  have hblank : (readFile (storage [10, 32, 13, 10]) "j" :
      Except Failure (List (Event String))) = .ok [] :=
    hlines.blank endsLine_nil (s := ['\n', ' ', '\r', '\n']) rfl (.inr (rfl : ([] : Bytes) = []))
  have hbad : (readFile (storage [255, 10, 93]) "j" :
      Except Failure (List (Event String))) = .error (.storage .notText) := by
    have hfirst : FirstLine [255] [255, 10, 93] := .ended [93] (by decide)
    exact hlines.notText hfirst (by decide) (by decide)
  refine ⟨hfile, ?_⟩
  rw [hlines.append (.inr rfl), hblank, hbad]
  rfl

end QueueJournal.Journal
