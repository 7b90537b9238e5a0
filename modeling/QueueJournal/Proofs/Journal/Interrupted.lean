import QueueJournal.Proofs.Journal.RoundTrip

/-!
# Journals with an item that is refused

Appending a journal stops at the first item that refuses to be written. The lines in front of it are
in the file by then, and so is the beginning of its own line, up to the colon behind `item`. Nothing
ends that line: the file cannot be read any more, the next journal is appended to the same line
without complaint, and no journal that is appended makes the file readable again
(`Ready.interrupted`). What was written in front of the broken line is still there and would be
read if the rest were cut off.
-/

namespace QueueJournal

namespace Item

theorem write_fragile {a : Fragile} {pieces : List (List Char)} (h : write a = .ok pieces) :
    Fragile.isBroken a.text.toList = false ∧ pieces = Json.stringPieces a.text.toList := by
  change (if Fragile.isBroken a.text.toList then _ else _) = _ at h
  split_ifs at h with hbroken
  exact ⟨Bool.eq_false_iff.2 hbroken, (Except.ok.inj h).symm⟩

theorem faithful_fragile : Faithful Fragile where
  reads {a pieces r} hwrite _ := by
    obtain ⟨hbroken, rfl⟩ := write_fragile hwrite
    have hread : Fragile.read ((Json.stringPieces a.text.toList).flatten ++ r) = .ok (a, r) := by
      rw [Fragile.read, Json.readString_stringPieces]
      simp only [hbroken, Bool.false_eq_true, if_false, String.ofList_toList]
    exact Json.readOption_stringPieces hread
  oneLine {a pieces} hwrite := by
    obtain ⟨-, rfl⟩ := write_fragile hwrite
    exact Json.lineFeed_notMem_stringPieces a.text.toList

theorem braceless_fragile : Braceless Fragile := by
  intro s
  have hstring : Json.readString "a string" ('\x7b' :: s) =
      .error (Json.unexpected "a string" ('\x7b' :: s)) := by
    rw [Json.readString, Json.skipSpace_cons (by decide)]
    rfl
  change ∃ fault, Fragile.read _ = .error fault
  rw [Fragile.read, hstring]
  exact ⟨_, rfl⟩

end Item

namespace Journal

open Storage (Sink)

variable {α : Type} [Item α] {w : Sink} {storage : Storage} {path : String} {content : Bytes}
  {events : List (Event α)} {j : Journal α} {reason : String}

/-! ### Where the writing stops -/

/-- Either all items can be written, or there is a first one that is refused. -/
theorem written_or_refused (events : List (Event α)) :
    (∀ event ∈ events, event.write.refusal = none) ∨
      ∃ before event after reason, events = before ++ event :: after ∧
        (∀ event ∈ before, event.write.refusal = none) ∧ event.write.refusal = some reason := by
  induction events with
  | nil => exact .inl fun _ hmem ↦ absurd hmem List.not_mem_nil
  | cons event events ih =>
    cases hevent : event.write.refusal with
    | some reason =>
      exact .inr ⟨[], event, events, reason, rfl, fun _ hmem ↦ absurd hmem List.not_mem_nil, hevent⟩
    | none =>
      rcases ih with hall | ⟨before, event', after, reason, rfl, hbefore, hrefused⟩
      · exact .inl (List.forall_mem_cons.2 ⟨hevent, hall⟩)
      · exact .inr ⟨event :: before, event', after, reason, rfl,
          List.forall_mem_cons.2 ⟨hevent, hbefore⟩, hrefused⟩

/-- **Writing stops behind the pieces in front of the refused item.** -/
theorem exists_writeTo_refused (h : w.accepts = true) {before after : List (Event α)}
    {event : Event α} (hsplit : j.entries = before ++ event :: after)
    (hbefore : ∀ event ∈ before, event.write.refusal = none)
    (hrefused : event.write.refusal = some reason) :
    ∃ w', j.writeTo w = (w', .error (.record (.refused reason))) ∧
      w'.landed = w.landed ++ linesOf before ++ Text.encode event.write.pieces.flatten := by
  obtain ⟨w₁, hlines, h₁, hlanded₁⟩ := exists_writeEntries_append h hbefore (event :: after)
  obtain ⟨w₂, hpieces, -, hlanded₂⟩ := exists_putAll_write h₁ event
  have hentries : writeEntries w j.entries = (w₂, some (.record (.refused reason))) := by
    rw [hsplit, hlines, writeEntries]
    simp only [hpieces, hrefused]
  refine ⟨w₂, ?_, by rw [hlanded₂, hlanded₁]⟩
  rw [writeTo, hentries]

theorem append_of_refused (h : storage.Offers path content) {before after : List (Event α)}
    {event : Event α} (hsplit : j.entries = before ++ event :: after)
    (hbefore : ∀ event ∈ before, event.write.refusal = none)
    (hrefused : event.write.refusal = some reason) :
    (j.append storage path).1 = .error (.record (.refused reason)) ∧
      (j.append storage path).2.HasFile path
        (content ++ linesOf before ++ Text.encode event.write.pieces.flatten) := by
  obtain ⟨w, hwrite, hlanded⟩ :=
    exists_writeTo_refused (w := .fresh true) rfl hsplit hbefore hrefused
  have happend := append_of_offers h j
  rwa [hwrite, hlanded, Sink.landed_fresh, List.nil_append, ← List.append_assoc] at happend

/-! ### What is left behind -/

/-- Journals that are appended go behind what is in the file. -/
theorem hasFile_appendAll (h : storage.HasFile path content) {journals : List (Journal α)}
    (hwritten : ∀ j ∈ journals, ∀ event ∈ j.entries, event.write.refusal = none) :
    (appendAll storage path journals).HasFile path
      (content ++ linesOf (journals.flatMap Journal.entries)) := by
  induction journals generalizing storage content with
  | nil => exact (List.append_nil content).symm ▸ h
  | cons j journals ih =>
    obtain ⟨hj, hjournals⟩ := List.forall_mem_cons.1 hwritten
    have hmore := ih (append_of_written (.file h) hj).2 hjournals
    rwa [List.append_assoc, ← linesOf_append, ← List.flatMap_cons] at hmore

/-- **A line that was not ended spoils what is appended to it.** -/
theorem exists_parse_stub_linesOf (faithful : Item.Faithful α) (braceless : Item.Braceless α)
    {event : Event α} (hrefused : event.write.refusal = some reason)
    (hid : event.id < UInt64.size) {more : List (Event α)}
    (hmore : ∀ event ∈ more, event.write.refusal = none) :
    ∃ failure, (parse (Text.encode event.write.pieces.flatten ++ linesOf more) :
      Except Failure (List (Event α))) = .error failure := by
  cases more with
  | nil =>
    rw [linesOf, List.flatMap_nil, List.append_nil]
    exact exists_parse_stub faithful hrefused hid
  | cons next more =>
    rw [linesOf, List.flatMap_cons, ← linesOf]
    exact exists_parse_stub_append faithful hrefused hid (hmore next List.mem_cons_self) braceless _

/-- What becomes of a file that held these events when an item of a journal is refused for this
reason. -/
structure Interrupted (j : Journal α) (storage : Storage) (path : String) (events : List (Event α))
    (reason : String) : Prop where
  /-- Behind the old content stand the lines of the events in front of the refused one, which could
  still be read, and then the beginning of the refused one, on a line that is not ended. -/
  left : ∃ content before event after, j.entries = before ++ event :: after ∧
    event.write.refusal = some reason ∧ storage.Offers path content ∧
    parse (content ++ linesOf before) = .ok (events ++ before) ∧
    (j.append storage path).2.HasFile path
      (content ++ linesOf before ++ Text.encode event.write.pieces.flatten)
  /-- Later journals are appended as if nothing had happened. -/
  goesOn : ∀ journals : List (Journal α),
    (∀ j' ∈ journals, ∀ event ∈ j'.entries, event.write.refusal = none) →
    ∀ before j' after, journals = before ++ j' :: after →
      (j'.append (appendAll (j.append storage path).2 path before) path).1 = .ok j'.length
  /-- None of them makes the file readable: not even when there are none yet. -/
  unreadable : ∀ journals : List (Journal α),
    (∀ j' ∈ journals, ∀ event ∈ j'.entries, event.write.refusal = none) →
    ∃ failure, (readFile (appendAll (j.append storage path).2 path journals) path :
      Except Failure (List (Event α))) = .error failure

/-- **A refused item makes the file unreadable for good**, if an item does not begin with a brace.
The appending fails with the reason of the refusal, so the caller knows; but it has left the
beginning of a line in the file. -/
theorem Ready.interrupted (faithful : Item.Faithful α) (braceless : Item.Braceless α)
    (hready : Ready storage path events) (hrange : ∀ event ∈ j.entries, event.InRange)
    (hanswer : (j.append storage path).1 = .error (.record (.refused reason))) :
    Interrupted j storage path events reason := by
  obtain ⟨content, hoffers, hends, hread⟩ := hready.exists_content
  rcases written_or_refused j.entries with
    hwritten | ⟨before, event, after, reason', hsplit, hbefore, hrefused⟩
  · rw [(append_of_written hoffers hwritten).1] at hanswer
    cases hanswer
  obtain ⟨hanswer', hfile⟩ := append_of_refused hoffers hsplit hbefore hrefused
  obtain rfl : reason' = reason := by
    rw [hanswer'] at hanswer
    cases hanswer
    rfl
  rw [hsplit] at hrange
  have hparse : parse (content ++ linesOf before) = .ok (events ++ before) :=
    parse_append_linesOf faithful hends hread
      fun e hmem ↦ ⟨hrange e (List.mem_append_left _ hmem), hbefore e hmem⟩
  have hid : event.id < UInt64.size := (hrange event List.mem_append_cons_self).id
  refine ⟨⟨content, before, event, after, hsplit, hrefused, hoffers, hparse, hfile⟩,
    ?goesOn, ?unreadable⟩
  case goesOn =>
    rintro journals hjournals before' j' after' rfl
    have hbefore' := hasFile_appendAll hfile
      fun other hmem ↦ hjournals other (List.mem_append_left _ hmem)
    exact (append_of_written (.file hbefore') (hjournals j' List.mem_append_cons_self)).1
  case unreadable =>
    intro journals hjournals
    have hmore : ∀ e ∈ journals.flatMap Journal.entries, e.write.refusal = none := by
      intro e hmem
      obtain ⟨j', hj', he⟩ := List.mem_flatMap.1 hmem
      exact hjournals j' hj' e he
    obtain ⟨failure, hfailure⟩ := exists_parse_stub_linesOf faithful braceless hrefused hid hmore
    refine ⟨failure, ?_⟩
    rw [readFile_of_hasFile (hasFile_appendAll hfile hjournals), List.append_assoc,
      parse_append (hends.append (endsLine_linesOf before)) hparse, hfailure]
    rfl

/-- The second of two events is refused, in a file that was missing. -/
theorem interrupted_second_event :
    let kept : Event Fragile := .enqueue ⟨1, 5⟩ "w" ⟨"a"⟩ (some 0)
    let refused : Event Fragile := .enqueue ⟨2, 6⟩ "w" ⟨"!b"⟩ (some 1)
    let j : Journal Fragile := ⟨[kept, refused]⟩
    (j.append Storage.fresh "j").1 = .error (.record (.refused "cannot encode")) ∧
      Interrupted j Storage.fresh "j" [] "cannot encode" := by
  intro kept refused j
  have hlocation : Storage.fresh.fileLocation "j" = .ok ["work", "here", "j"] := rfl
  have hsplit : j.entries = [kept] ++ refused :: [] := rfl
  have hanswer : (j.append Storage.fresh "j").1 = .error (.record (.refused "cannot encode")) :=
    (append_of_refused (.missing hlocation rfl) hsplit (by decide) rfl).1
  exact ⟨hanswer, Ready.interrupted Item.faithful_fragile Item.braceless_fragile
    (.missing hlocation rfl) (by decide) hanswer⟩

/-- **A journal with a refused item can leave a file from which nothing is read**: neither the
events that were there nor any beginning of the journal. -/
theorem not_readFile_of_refused :
    ¬ ∀ (storage : Storage) (path : String) (content : Bytes) (events : List (Event Fragile))
      (j : Journal Fragile) (reason : String),
      storage.HasFile path content → EndsLine content → readFile storage path = .ok events →
      (∀ event ∈ j.entries, event.InRange) →
      (j.append storage path).1 = .error (.record (.refused reason)) →
      ∃ before, before <+: j.entries ∧
        readFile (j.append storage path).2 path = .ok (events ++ before) := by
  intro h
  let storage := Storage.fresh.put ["work", "here", "j"] (.file [])
  let refused : Event Fragile := .enqueue ⟨1, 0⟩ "w" ⟨"!x"⟩ (some 0)
  have hempty : storage.HasFile "j" [] := ⟨["work", "here", "j"], rfl, rfl⟩
  have hrefused : refused.write.refusal = some "cannot encode" := rfl
  obtain ⟨hanswer, hstub⟩ := append_of_refused (j := ⟨[refused]⟩) (.file hempty) rfl
    (List.forall_mem_nil _) hrefused
  obtain ⟨before, -, hread⟩ := h storage "j" [] [] ⟨[refused]⟩ "cannot encode" hempty endsLine_nil
    rfl (by decide) hanswer
  obtain ⟨failure, hfailure⟩ := exists_parse_stub Item.faithful_fragile hrefused (by decide)
  have hparse : parse (Text.encode refused.write.pieces.flatten) = .ok before :=
    (readFile_of_hasFile hstub).symm.trans hread
  rw [hfailure] at hparse
  cases hparse

end Journal

end QueueJournal
