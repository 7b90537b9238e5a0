import QueueJournal.Journal.Lines
import QueueJournal.Proofs.Event.RoundTrip

/-!
# Lines of a journal

Content that is added behind the end of a line makes lines of its own, and the events on them come
behind those that were there (`parse_append`). The line of an event that has been written is that
event again (`parse_lineOf`), since the event holds no line feed and ends with a brace, not with a
carriage return. An event that is cut off at its item spoils the content that ends with it
(`exists_parse_stub`), and so it does when the line of another event follows it
(`exists_parse_stub_append`).
-/

namespace QueueJournal.Journal

/-! ### Cutting a content into lines -/

/-- No line is left without its end. -/
def EndsLine (content : Bytes) : Prop :=
  content = [] ∨ content.getLast? = some lineFeed

theorem endsLine_nil : EndsLine [] := .inl rfl

theorem endsLine_append_lineFeed (line : Bytes) : EndsLine (line ++ [lineFeed]) :=
  .inr List.getLast?_concat

theorem EndsLine.append {content more : Bytes} (h : EndsLine content) (hmore : EndsLine more) :
    EndsLine (content ++ more) := by
  rcases hmore with rfl | hmore
  · rwa [List.append_nil]
  · exact .inr (by rw [List.getLast?_append, hmore]; rfl)

theorem EndsLine.tail {b : UInt8} {content : Bytes} (h : EndsLine (b :: content)) :
    EndsLine content := by
  rcases h with h | h
  · cases h
  · cases content with
    | nil => exact endsLine_nil
    | cons b' content => exact .inr (by rwa [List.getLast?_cons_cons] at h)

theorem consLine_append {b : UInt8} {lines more : List Bytes} (h : lines ≠ []) :
    consLine b (lines ++ more) = consLine b lines ++ more := by
  cases lines with
  | nil => exact absurd rfl h
  | cons line lines => rfl

theorem splitLines_lineFeed (content : Bytes) :
    splitLines (lineFeed :: content) = [] :: splitLines content := by
  cases content <;> simp [splitLines]

theorem splitLines_return (content : Bytes) :
    splitLines (carriageReturn :: lineFeed :: content) = [] :: splitLines content := by
  simp [splitLines, carriageReturn, lineFeed]

theorem splitLines_cons {b b' : UInt8} {content : Bytes} (hb : b ≠ lineFeed)
    (hpair : ¬ (b = carriageReturn ∧ b' = lineFeed)) :
    splitLines (b :: b' :: content) = consLine b (splitLines (b' :: content)) := by
  simp [splitLines, hb, hpair]

theorem splitLines_ne_nil (b : UInt8) (content : Bytes) : splitLines (b :: content) ≠ [] := by
  by_cases hb : b = lineFeed
  · rw [hb, splitLines_lineFeed]
    exact List.cons_ne_nil _ _
  · cases content with
    | nil => simp [splitLines, hb]
    | cons b' content =>
      by_cases hpair : b = carriageReturn ∧ b' = lineFeed
      · rw [hpair.1, hpair.2, splitLines_return]
        exact List.cons_ne_nil _ _
      · rw [splitLines_cons hb hpair]
        cases splitLines (b' :: content) <;> exact List.cons_ne_nil _ _

/-- **What is added behind the end of a line makes lines of its own.** -/
theorem splitLines_append {content : Bytes} (h : EndsLine content) (more : Bytes) :
    splitLines (content ++ more) = splitLines content ++ splitLines more := by
  fun_induction splitLines content with
  | case1 => rfl
  | case2 content ih =>
    rw [List.cons_append, splitLines_lineFeed, ih h.tail]
    rfl
  | case3 b hb =>
    rcases h with h | h
    · cases h
    · exact absurd (by simpa using h) hb
  | case4 b hb b' content hpair ih =>
    obtain ⟨rfl, rfl⟩ := hpair
    rw [List.cons_append, List.cons_append, splitLines_return, ih h.tail.tail]
    rfl
  | case5 b hb b' content hpair ih =>
    rw [List.cons_append, List.cons_append, splitLines_cons hb hpair, ← List.cons_append, ih h.tail,
      consLine_append (splitLines_ne_nil b' content)]

/-- What holds no line feed is one line, with or without its end. -/
theorem splitLines_line {line : Bytes} (hline : lineFeed ∉ line)
    (hreturn : line.getLast? ≠ some carriageReturn) : splitLines (line ++ [lineFeed]) = [line] := by
  induction line with
  | nil => exact splitLines_lineFeed []
  | cons b line ih =>
    obtain ⟨hb, hline⟩ := not_or.1 (mt List.mem_cons.2 hline)
    cases line with
    | nil =>
      have hpair : ¬ (b = carriageReturn ∧ lineFeed = lineFeed) := fun h ↦ hreturn (by simp [h.1])
      exact splitLines_cons (Ne.symm hb) hpair
    | cons b' line =>
      have hb' : lineFeed ≠ b' := (not_or.1 (mt List.mem_cons.2 hline)).1
      have hrest := ih hline (by rwa [List.getLast?_cons_cons] at hreturn)
      rw [List.cons_append, List.cons_append, splitLines_cons (Ne.symm hb) (fun h ↦ hb' h.2.symm),
        ← List.cons_append, hrest]
      rfl

theorem splitLines_unended {b : UInt8} {line : Bytes} (hline : lineFeed ∉ b :: line) :
    splitLines (b :: line) = [b :: line] := by
  induction line generalizing b with
  | nil =>
    obtain ⟨hb, -⟩ := not_or.1 (mt List.mem_cons.2 hline)
    simp [splitLines, Ne.symm hb]
  | cons b' line ih =>
    obtain ⟨hb, hline⟩ := not_or.1 (mt List.mem_cons.2 hline)
    have hb' : lineFeed ≠ b' := (not_or.1 (mt List.mem_cons.2 hline)).1
    rw [splitLines_cons (Ne.symm hb) (fun h ↦ hb' h.2.symm), ih hline]
    rfl

/-! ### The bytes of a line -/

/-- All bytes of a character that takes several are at least 128. -/
theorem toNat_eq_of_mem_utf8EncodeChar {c : Char} {b : UInt8} (hb : b.toNat < 128)
    (h : b ∈ String.utf8EncodeChar c) : c.toNat = b.toNat := by
  have hbyte : ∀ n < 256, b = UInt8.ofNat n → n = b.toNat := fun n hn heq ↦ by
    rw [heq, UInt8.toNat_ofNat_of_lt' hn]
  rw [Char.toNat]
  unfold String.utf8EncodeChar at h
  simp only at h
  repeat' split at h
  all_goals simp only [List.mem_cons, List.not_mem_nil, or_false] at h
  · exact hbyte _ (by omega) h
  · rcases h with h | h <;> have := hbyte _ (by omega) h <;> omega
  · rcases h with h | h | h <;> have := hbyte _ (by omega) h <;> omega
  · rcases h with h | h | h | h <;> have := hbyte _ (by omega) h <;> omega

theorem eq_ofNat_of_mem_utf8EncodeChar {c : Char} {b : UInt8} (hb : b.toNat < 128)
    (h : b ∈ String.utf8EncodeChar c) : c = Char.ofNat b.toNat := by
  rw [← toNat_eq_of_mem_utf8EncodeChar hb h, Char.ofNat_toNat]

/-- A byte of ASCII stands in the written form of a text only for its own character. -/
theorem mem_of_mem_encode {s : List Char} {b : UInt8} (hb : b.toNat < 128)
    (h : b ∈ Text.encode s) : Char.ofNat b.toNat ∈ s := by
  obtain ⟨c, hc, hbyte⟩ := List.mem_flatMap.1 h
  rwa [← eq_ofNat_of_mem_utf8EncodeChar hb hbyte]

/-- The written form of a text without line feeds has no byte of one. -/
theorem lineFeed_notMem_encode {s : List Char} (h : '\n' ∉ s) : lineFeed ∉ Text.encode s :=
  fun hmem ↦ h (mem_of_mem_encode (by decide) hmem)

/-! ### Reading lines -/

section Reading

variable {α : Type} [Item α]

/-- **Lines are read one after the other**, and the first failure is the failure of them all. -/
theorem parseLines_append (lines more : List Bytes) :
    (parseLines (lines ++ more) : Except Failure (List (Event α))) = do
      let events ← parseLines lines
      let others ← parseLines more
      return events ++ others := by
  induction lines with
  | nil =>
    cases hmore : (parseLines more : Except Failure (List (Event α))) <;>
      simp [parseLines, hmore, bind, Except.bind, pure, Except.pure]
  | cons line lines ih =>
    rw [List.cons_append, parseLines, parseLines, ih]
    cases (parseLine line : Except Failure (Option (Event α))) with
    | error failure => rfl
    | ok event =>
      cases (parseLines lines : Except Failure (List (Event α))) with
      | error failure => rfl
      | ok events =>
        cases (parseLines more : Except Failure (List (Event α))) with
        | error failure => rfl
        | ok others => exact congrArg Except.ok (List.append_assoc ..).symm

theorem parse_append_eq {content : Bytes} (hends : EndsLine content) (more : Bytes) :
    (parse (content ++ more) : Except Failure (List (Event α))) = do
      let events ← parse content
      let others ← parse more
      return events ++ others := by
  rw [parse, splitLines_append hends]
  exact parseLines_append _ _

/-- **What is added behind the end of a line is read behind what was there.** -/
theorem parse_append {content : Bytes} {events : List (Event α)} (hends : EndsLine content)
    (h : parse content = .ok events) (more : Bytes) :
    parse (content ++ more) = (parse more).map (events ++ ·) := by
  rw [parse_append_eq hends, h]
  cases (parse more : Except Failure (List (Event α))) <;> rfl

/-! ### Lines of events -/

/-- The line of an event. -/
def lineOf (event : Event α) : Bytes :=
  Text.encode event.write.pieces.flatten ++ [lineFeed]

theorem parseLine_encode {s : List Char} {event : Event α}
    (h : Event.parse ('\x7b' :: s) = .ok event) :
    parseLine (Text.encode ('\x7b' :: s)) = .ok (some event) := by
  have hblank : Text.isAllBlank ('\x7b' :: s) = false := by
    simp [Text.isAllBlank_eq_all, show Text.isBlank '\x7b' = false by decide]
  rw [parseLine, Text.decode?_encode]
  simp only [hblank, Bool.false_eq_true, if_false, h]

/-- Only a carriage return ends with the byte of one. -/
theorem getLast?_encode_of_ne {s : List Char} (h : s.getLast? ≠ some '\r') :
    (Text.encode s).getLast? ≠ some carriageReturn := by
  cases hs : s.getLast? with
  | none =>
    rw [List.getLast?_eq_none_iff.1 hs]
    exact nofun
  | some c =>
    obtain ⟨init, rfl⟩ := List.getLast?_eq_some_iff.1 hs
    rw [Text.encode_append, Text.encode_cons, Text.encode_nil, List.append_nil,
      List.getLast?_append]
    cases hbyte : (String.utf8EncodeChar c).getLast? with
    | none => exact absurd (List.getLast?_eq_none_iff.1 hbyte) (by simp)
    | some b =>
      rintro ⟨⟩
      have hc := eq_ofNat_of_mem_utf8EncodeChar (by decide) (List.mem_of_getLast? hbyte)
      exact h (hs.trans (congrArg some hc))

/-- The written form of an event does not end with a carriage return. -/
theorem getLast?_encode {s : List Char} (h : s.getLast? = some '\x7d') :
    (Text.encode s).getLast? ≠ some carriageReturn :=
  getLast?_encode_of_ne (by rw [h]; decide)

/-- The line of an event holds what is read of its written form. -/
theorem parse_lineOf_of_parse {event event' : Event α} (hline : '\n' ∉ event.write.pieces.flatten)
    (hwritten : event.write.refusal = none)
    (hevent : Event.parse event.write.pieces.flatten = .ok event') :
    parse (lineOf event) = .ok [event'] := by
  have hsplit := splitLines_line (lineFeed_notMem_encode hline)
    (getLast?_encode (Event.getLast?_write hwritten))
  obtain ⟨s, hs⟩ := event.exists_write_eq_cons
  rw [hs] at hevent hsplit
  rw [parse, lineOf, hs, hsplit, parseLines, parseLine_encode hevent]
  rfl

/-- **The line of an event that has been written is that event.** -/
theorem parse_lineOf (faithful : Item.Faithful α) {event : Event α} (hrange : event.InRange)
    (hwritten : event.write.refusal = none) : parse (lineOf event) = .ok [event] :=
  parse_lineOf_of_parse (event.lineFeed_notMem_write faithful) hwritten
    (Event.parse_of_write faithful hrange hwritten)

theorem endsLine_lineOf (event : Event α) : EndsLine (lineOf event) :=
  endsLine_append_lineFeed _

theorem count_lineFeed_lineOf (faithful : Item.Faithful α) (event : Event α) :
    (lineOf event).count lineFeed = 1 := by
  have hnone := List.count_eq_zero.2 (lineFeed_notMem_encode (event.lineFeed_notMem_write faithful))
  rw [lineOf, List.count_append, hnone, List.count_singleton_self]

/-- The lines of events, one for each. -/
def linesOf (events : List (Event α)) : Bytes :=
  events.flatMap lineOf

theorem linesOf_append (events more : List (Event α)) :
    linesOf (events ++ more) = linesOf events ++ linesOf more :=
  List.flatMap_append

theorem endsLine_linesOf (events : List (Event α)) : EndsLine (linesOf events) := by
  induction events with
  | nil => exact endsLine_nil
  | cons event events ih => exact (endsLine_lineOf event).append ih

theorem count_lineFeed_linesOf (faithful : Item.Faithful α) (events : List (Event α)) :
    (linesOf events).count lineFeed = events.length := by
  induction events with
  | nil => rfl
  | cons event events ih =>
    rw [linesOf, List.flatMap_cons, List.count_append, count_lineFeed_lineOf faithful, ← linesOf,
      ih, List.length_cons, Nat.add_comm]

/-- **The lines of events that have been written are those events.** -/
theorem parse_linesOf (faithful : Item.Faithful α) {events : List (Event α)}
    (h : ∀ event ∈ events, event.InRange ∧ event.write.refusal = none) :
    parse (linesOf events) = .ok events := by
  induction events with
  | nil => rfl
  | cons event events ih =>
    obtain ⟨hrange, hwritten⟩ := h event List.mem_cons_self
    have hrest := ih fun other hmem ↦ h other (List.mem_cons_of_mem _ hmem)
    rw [linesOf, List.flatMap_cons,
      parse_append (endsLine_lineOf event) (parse_lineOf faithful hrange hwritten), ← linesOf,
      hrest]
    rfl

/-- The lines of events that have been written are read behind what was there. -/
theorem parse_append_linesOf (faithful : Item.Faithful α) {content : Bytes}
    {events more : List (Event α)} (hends : EndsLine content) (hread : parse content = .ok events)
    (hmore : ∀ event ∈ more, event.InRange ∧ event.write.refusal = none) :
    parse (content ++ linesOf more) = .ok (events ++ more) := by
  rw [parse_append hends hread, parse_linesOf faithful hmore]
  rfl

/-! ### Lines that are cut off -/

/-- A line that cannot be read spoils the content that begins with it. -/
theorem parse_eq_error {content line : Bytes} {lines : List Bytes} {failure : Failure}
    (hsplit : splitLines content = line :: lines)
    (h : (parseLine line : Except Failure (Option (Event α))) = .error failure) :
    (parse content : Except Failure (List (Event α))) = .error failure := by
  rw [parse, hsplit, parseLines, h]
  rfl

/-- A line that begins with an event whose item was refused cannot be read, if no item can be read
from what follows. -/
theorem exists_parseLine_error {event : Event α} {reason : String}
    (hrefused : event.write.refusal = some reason) (hid : event.id < UInt64.size) {s : List Char}
    {fault : Json.Fault}
    (hitem : Json.readOption (Item.read : List Char → Except Json.Fault (α × List Char)) s =
      .error fault) :
    ∃ failure, (parseLine (Text.encode (event.write.pieces.flatten ++ s)) :
      Except Failure (Option (Event α))) = .error failure := by
  obtain ⟨fault, hfault⟩ := Event.parse_of_refusal hrefused hid hitem
  obtain ⟨rest, hrest⟩ := event.exists_write_eq_cons
  rw [hrest, List.cons_append] at hfault ⊢
  have hblank : Text.isAllBlank ('\x7b' :: (rest ++ s)) = false := by
    simp [Text.isAllBlank_eq_all, show Text.isBlank '\x7b' = false by decide]
  rw [parseLine, Text.decode?_encode]
  simp only [hblank, Bool.false_eq_true, if_false, hfault]
  exact ⟨_, rfl⟩

/-- **An event that was cut off at its item spoils a content that ends with it.** -/
theorem exists_parse_stub (faithful : Item.Faithful α) {event : Event α} {reason : String}
    (hrefused : event.write.refusal = some reason) (hid : event.id < UInt64.size) :
    ∃ failure, (parse (Text.encode event.write.pieces.flatten) :
      Except Failure (List (Event α))) = .error failure := by
  obtain ⟨fault, hitem⟩ := Event.exists_readOption_nil (α := α)
  obtain ⟨failure, hfailure⟩ := exists_parseLine_error hrefused hid hitem
  rw [List.append_nil] at hfailure
  have hline := lineFeed_notMem_encode (event.lineFeed_notMem_write faithful)
  obtain ⟨rest, hrest⟩ := event.exists_write_eq_cons
  rw [hrest] at hline hfailure ⊢
  exact ⟨failure, parse_eq_error (splitLines_unended hline) hfailure⟩

/-- **An event that was cut off at its item spoils the event behind it**, if an item does not begin
with a brace. -/
theorem exists_parse_stub_append (faithful : Item.Faithful α) {event next : Event α}
    {reason : String} (hrefused : event.write.refusal = some reason) (hid : event.id < UInt64.size)
    (hwritten : next.write.refusal = none)
    (braceless : Item.Braceless α) (more : Bytes) :
    ∃ failure, (parse (Text.encode event.write.pieces.flatten ++ (lineOf next ++ more)) :
      Except Failure (List (Event α))) = .error failure := by
  -- Both events are on one line, which ends as that of the second does.
  let line := Text.encode (event.write.pieces.flatten ++ next.write.pieces.flatten)
  have hcontent : Text.encode event.write.pieces.flatten ++ (lineOf next ++ more) =
      (line ++ [lineFeed]) ++ more := by
    simp [line, lineOf]
  have hline : lineFeed ∉ line :=
    lineFeed_notMem_encode (List.not_mem_append (event.lineFeed_notMem_write faithful)
      (next.lineFeed_notMem_write faithful))
  have hlast : line.getLast? ≠ some carriageReturn := by
    refine getLast?_encode ?_
    rw [List.getLast?_append, Event.getLast?_write hwritten, Option.some_or]
  have hsplit : splitLines ((line ++ [lineFeed]) ++ more) = line :: splitLines more := by
    rw [splitLines_append (endsLine_append_lineFeed line), splitLines_line hline hlast]
    rfl
  obtain ⟨rest, hrest⟩ := next.exists_write_eq_cons
  obtain ⟨fault, hfault⟩ := braceless rest
  have hitem : Json.readOption (Item.read : List Char → Except Json.Fault (α × List Char))
      next.write.pieces.flatten = .error fault := by
    rw [hrest, Json.readOption_cons Item.read (by decide) (by decide), hfault]
    rfl
  obtain ⟨failure, hfailure⟩ := exists_parseLine_error hrefused hid hitem
  exact ⟨failure, hcontent ▸ parse_eq_error hsplit hfailure⟩

end Reading

end QueueJournal.Journal
