import QueueJournal.Proofs.Json.Tokens

/-!
# Well-formed texts are passed over

Whatever a well-formed text says, the reader passes over it and stops behind it (`Spells.skip`). The
induction is on how the text is spelled; what is open around it does not matter, and neither does
how deep it goes.
-/

namespace QueueJournal.Json

variable {around : List Container} {container : Container} {s r w : List Char} {c : Char}

/-! ### Blanks -/

theorem skipSpace_append (hw : IsBlank w) (s : List Char) : skipSpace (w ++ s) = skipSpace s := by
  rw [skipSpace, List.dropWhile_append_of_pos hw, skipSpace]

theorem skipSpace_append_cons (hw : IsBlank w) (hc : isSpace c = false) (s : List Char) :
    skipSpace (w ++ c :: s) = c :: s := by
  rw [skipSpace_append hw, skipSpace_cons hc]

/-- Blanks in front of what ends a number end it too. -/
theorem endsNumber_append (hw : IsBlank w) (hr : EndsNumber r) : EndsNumber (w ++ r) := by
  cases w with
  | nil => exact hr
  | cons c w =>
    have hc : isSpace c = true := hw c List.mem_cons_self
    simp only [isSpace, Bool.or_eq_true, beq_iff_eq] at hc
    rcases hc with ((rfl | rfl) | rfl) | rfl <;> exact ⟨rfl, by decide, by decide, by decide⟩

/-! ### One step -/

theorem skipInside_eq (around : List Container) (s : List Char) : skipInside around s =
    match skipSpace s with
    | [] => .error (.atEnd .endInValue)
    | c :: r =>
      if c = '[' then skipOpened .array around r
      else if c = '\x7b' then skipOpened .object around r
      else (skipScalar (c :: r)).bind (skipBehind around) := by
  rw [skipInside]
  split
  case h_1 hs => simp only [hs]
  case h_2 c r hs =>
    simp only [hs]
    congr 2
    split
    case h_1 h => rw [hs] at h; rw [h]; rfl
    case h_2 h => rw [hs] at h; rw [h]; rfl

theorem skipInside_append (hw : IsBlank w) (around : List Container) (s : List Char) :
    skipInside around (w ++ s) = skipInside around s := by
  rw [skipInside_eq, skipInside_eq, skipSpace_append hw]

theorem skipInside_array (r : List Char) :
    skipInside around ('[' :: r) = skipOpened .array around r := by
  rw [skipInside_eq, skipSpace_cons (by decide)]
  rfl

theorem skipInside_object (r : List Char) :
    skipInside around ('\x7b' :: r) = skipOpened .object around r := by
  rw [skipInside_eq, skipSpace_cons (by decide)]
  rfl

theorem skipInside_scalar (hspace : isSpace c = false) (harray : c ≠ '[') (hobject : c ≠ '\x7b')
    (hscalar : skipScalar (c :: s) = .ok r) : skipInside around (c :: s) = skipBehind around r := by
  rw [skipInside_eq, skipSpace_cons hspace]
  simp only [if_neg harray, if_neg hobject, hscalar]
  rfl

theorem skipOpened_eq (container : Container) (around : List Container) (s : List Char) :
    skipOpened container around s =
      match skipSpace s with
      | [] => .error (.atEnd container.endCause)
      | c :: r =>
        if c = container.closing then skipBehind around r
        else (skipKey container s).bind (skipInside (container :: around)) := by
  rw [skipOpened]
  split
  case h_1 hs => simp only [hs]
  case h_2 c r hs =>
    simp only [hs]
    congr 1
    split
    case h_1 h => rw [h]; rfl
    case h_2 h => rw [h]; rfl

theorem skipBehind_eq (container : Container) (around : List Container) (s : List Char) :
    skipBehind (container :: around) s =
      match skipSpace s with
      | [] => .error (.atEnd container.endCause)
      | c :: r =>
        if c = ',' then (skipKey container r).bind (skipInside (container :: around))
        else if c = container.closing then skipBehind around r
        else .error (.onNext container.separatorCause (c :: r)) := by
  rw [skipBehind]
  split
  case h_1 hs => simp only [hs]
  case h_2 c r hs =>
    simp only [hs]
    congr 1
    split
    case h_1 h => rw [h]; rfl
    case h_2 h => rw [h]; rfl

theorem isSpace_closing (container : Container) : isSpace container.closing = false := by
  cases container <;> rfl

theorem skipOpened_done (container : Container) (hw : IsBlank w) (r : List Char) :
    skipOpened container around (w ++ container.closing :: r) = skipBehind around r := by
  rw [skipOpened_eq, skipSpace_append_cons hw (isSpace_closing container)]
  exact if_pos rfl

theorem skipBehind_append (hw : IsBlank w) (s : List Char) :
    skipBehind (container :: around) (w ++ s) = skipBehind (container :: around) s := by
  rw [skipBehind_eq, skipBehind_eq, skipSpace_append hw]

theorem skipBehind_comma (r : List Char) : skipBehind (container :: around) (',' :: r) =
    (skipKey container r).bind (skipInside (container :: around)) := by
  rw [skipBehind_eq, skipSpace_cons (by decide)]
  exact if_pos rfl

theorem skipBehind_done (r : List Char) :
    skipBehind (container :: around) (container.closing :: r) = skipBehind around r := by
  have hcomma : container.closing ≠ ',' := by cases container <;> decide
  rw [skipBehind_eq, skipSpace_cons (isSpace_closing container)]
  exact (if_neg hcomma).trans (if_pos rfl)

/-! ### What stands between brackets -/

/-- The text is that of a value, which is passed over. -/
def SkipsValue (t : List Char) : Prop :=
  ∀ (around : List Container) (r : List Char), EndsNumber r →
    skipInside around (t ++ r) = skipBehind around r

/-- The text is that of an element or a member with its blanks, which is passed over. -/
def SkipsPart (container : Container) (t : List Char) : Prop :=
  ∀ (around : List Container) (r : List Char), EndsNumber r →
    (skipKey container (t ++ r)).bind (skipInside (container :: around)) =
      skipBehind (container :: around) r

theorem skipInside_whole {cell : Cell} (hpadded : cell.IsPadded) (htext : SkipsValue cell.text)
    (hr : EndsNumber r) : skipInside (container :: around) (cell.whole ++ r) =
      skipBehind (container :: around) r := by
  rw [Cell.whole, List.append_assoc, List.append_assoc, skipInside_append hpadded.1,
    htext _ _ (endsNumber_append hpadded.2 hr), skipBehind_append hpadded.2]

theorem skipsPart_whole {cell : Cell} (hpadded : cell.IsPadded) (htext : SkipsValue cell.text) :
    SkipsPart .array cell.whole :=
  fun _ _ hr ↦ skipInside_whole hpadded htext hr

theorem readColon_append (hw : IsBlank w) (r : List Char) : readColon (w ++ ':' :: r) = .ok r := by
  rw [readColon, skipSpace_append_cons hw (by decide)]
  exact if_pos rfl

theorem skipsPart_line {cell : KeyedCell} (hkeyed : cell.IsKeyed) (htext : SkipsValue cell.text) :
    SkipsPart .object cell.line := by
  intro around r hr
  have hkey : skipKey .object (cell.line ++ r) = .ok (cell.whole ++ r) := by
    rw [cell.line_append, skipKey, skipSpace_append_cons hkeyed.keyFront (by decide)]
    simp only [if_true, hkeyed.key.skipChars, readColon_append hkeyed.keyBack]
  rw [hkey]
  exact skipInside_whole hkeyed.padded htext hr

/-- What follows the first part ends every number in it. -/
theorem endsNumber_flatMap {β : Type} (others : List β) (text : β → List Char)
    (container : Container) (r : List Char) :
    EndsNumber ((others.flatMap fun part ↦ ',' :: text part) ++ container.closing :: r) := by
  cases others with
  | nil => cases container <;> exact ⟨rfl, by decide, by decide, by decide⟩
  | cons => exact ⟨rfl, by decide, by decide, by decide⟩

/-- **The parts behind the first are passed over**, and so is the closing bracket. -/
theorem skipBehind_flatMap {β : Type} {others : List β} {text : β → List Char}
    (h : ∀ part ∈ others, SkipsPart container (text part)) (r : List Char) :
    skipBehind (container :: around)
        ((others.flatMap fun part ↦ ',' :: text part) ++ container.closing :: r) =
      skipBehind around r := by
  induction others with
  | nil => exact skipBehind_done r
  | cons part others ih =>
    obtain ⟨hpart, hothers⟩ := List.forall_mem_cons.1 h
    rw [List.flatMap_cons, List.append_assoc, List.cons_append, skipBehind_comma,
      hpart around _ (endsNumber_flatMap others text container r), ih hothers]

theorem skipOpened_parts {β : Type} {first : β} {others : List β} {text : β → List Char}
    (container : Container)
    (hs : ∀ r, ∃ t, skipSpace (text first ++ r) = c :: t) (hc : c ≠ container.closing)
    (h : ∀ part ∈ first :: others, SkipsPart container (text part)) (r : List Char) :
    skipOpened container around (text first ++
      ((others.flatMap fun part ↦ ',' :: text part) ++ container.closing :: r)) =
      skipBehind around r := by
  obtain ⟨hfirst, hothers⟩ := List.forall_mem_cons.1 h
  obtain ⟨t, ht⟩ := hs ((others.flatMap fun part ↦ ',' :: text part) ++ container.closing :: r)
  -- Something else than the bracket comes first, so the parts are taken up one by one.
  rw [skipOpened_eq, ht]
  exact (if_neg hc).trans ((hfirst around _ (endsNumber_flatMap others text container r)).trans
    (skipBehind_flatMap hothers r))

/-! ### Values -/

/-- The first character of a value tells its kind. -/
inductive Begins : Form → Char → Prop where
  /-- The first letter of `null`. -/
  | null : Begins .null 'n'
  /-- The first letter of `true`. -/
  | isTrue : Begins (.bool true) 't'
  /-- The first letter of `false`. -/
  | isFalse : Begins (.bool false) 'f'
  /-- A digit or a minus. -/
  | number {literal : List Char} {c : Char} (hc : beginsNumber c = true) :
    Begins (.number literal) c
  /-- A quote. -/
  | string (s : List Char) : Begins (.string s) '"'
  /-- A bracket. -/
  | array (elements : List Form) : Begins (.array elements) '['
  /-- A brace. -/
  | object (members : List (List Char × Form)) : Begins (.object members) '\x7b'

theorem Spells.exists_begins {form : Form} {t : List Char} (h : Spells form t) :
    ∃ c s, t = c :: s ∧ Begins form c := by
  cases h with
  | null => exact ⟨_, _, rfl, .null⟩
  | bool b =>
    cases b with
    | true => exact ⟨_, _, rfl, .isTrue⟩
    | false => exact ⟨_, _, rfl, .isFalse⟩
  | number h =>
    obtain ⟨c, s, hs, hc⟩ := h.exists_cons
    exact ⟨c, s, hs, .number hc⟩
  | string => exact ⟨_, _, rfl, .string _⟩
  | emptyArray => exact ⟨_, _, rfl, .array _⟩
  | array => exact ⟨_, _, rfl, .array _⟩
  | emptyObject => exact ⟨_, _, rfl, .object _⟩
  | object => exact ⟨_, _, rfl, .object _⟩

theorem Begins.isSpace_eq_false {form : Form} (h : Begins form c) : isSpace c = false := by
  cases h with
  | number hc => exact isSpace_eq_false_of_beginsNumber hc
  | _ => rfl

theorem Begins.ne_bracket {form : Form} (h : Begins form c) : c ≠ ']' := by
  cases h with
  | number hc =>
    rintro rfl
    cases hc
  | _ => decide

theorem skipScalar_of_beginsNumber (hc : beginsNumber c = true) (s : List Char) :
    skipScalar (c :: s) = skipNumber (c :: s) := by
  unfold skipScalar
  split
  case h_1 h => cases h
  case h_2 h => rw [(List.cons.inj h).1] at hc; cases hc
  case h_3 h => rw [(List.cons.inj h).1] at hc; cases hc
  case h_4 h => rw [(List.cons.inj h).1] at hc; cases hc
  case h_5 h => rw [(List.cons.inj h).1] at hc; cases hc
  case h_6 h => rw [← (List.cons.inj h).1, if_pos hc]

/-- **A well-formed value is passed over**, whatever is open around it. -/
theorem Spells.skipsValue {form : Form} {t : List Char} (h : Spells form t) : SkipsValue t := by
  induction h with
  | null =>
    intro around r _
    exact skipInside_scalar (c := 'n') rfl (by decide) (by decide) rfl
  | bool b =>
    intro around r _
    cases b with
    | true => exact skipInside_scalar (c := 't') rfl (by decide) (by decide) rfl
    | false => exact skipInside_scalar (c := 'f') rfl (by decide) (by decide) rfl
  | number h =>
    intro around r hr
    have hskip := h.skipNumber hr
    obtain ⟨c, s, rfl, hc⟩ := h.exists_cons
    rw [List.cons_append] at hskip ⊢
    refine skipInside_scalar (isSpace_eq_false_of_beginsNumber hc) ?_ ?_ ?_
    · rintro rfl; cases hc
    · rintro rfl; cases hc
    · rw [skipScalar_of_beginsNumber hc, hskip]
  | string h =>
    intro around r _
    rw [List.cons_append, List.append_assoc]
    exact skipInside_scalar rfl (by decide) (by decide) (h.skipChars r)
  | emptyArray hw =>
    intro around r _
    rw [List.cons_append, List.append_assoc, skipInside_array]
    exact skipOpened_done .array hw r
  | @array first others hpadded hcells ih =>
    intro around r _
    obtain ⟨c, s, hs, hbegins⟩ := (hcells first List.mem_cons_self).exists_begins
    have hfirst : ∀ r, ∃ t, skipSpace (first.whole ++ r) = c :: t := fun r ↦ by
      rw [Cell.whole, List.append_assoc, hs, List.cons_append, List.cons_append,
        skipSpace_append_cons (hpadded first List.mem_cons_self).1 hbegins.isSpace_eq_false]
      exact ⟨_, rfl⟩
    rw [List.cons_append, List.append_assoc, List.append_assoc, skipInside_array]
    exact skipOpened_parts .array hfirst hbegins.ne_bracket
      (fun cell hcell ↦ skipsPart_whole (hpadded cell hcell) (ih cell hcell)) r
  | emptyObject hw =>
    intro around r _
    rw [List.cons_append, List.append_assoc, skipInside_object]
    exact skipOpened_done .object hw r
  | @object first others hkeyed hcells ih =>
    intro around r _
    have hfirst : ∀ r, ∃ t, skipSpace (first.line ++ r) = '"' :: t := fun r ↦ by
      rw [KeyedCell.line, KeyedCell.quoted, List.append_assoc, List.cons_append, List.cons_append,
        skipSpace_append_cons (hkeyed first List.mem_cons_self).keyFront (by decide)]
      exact ⟨_, rfl⟩
    rw [List.cons_append, List.append_assoc, List.append_assoc, skipInside_object]
    exact skipOpened_parts .object hfirst (by decide)
      (fun cell hcell ↦ skipsPart_line (hkeyed cell hcell) (ih cell hcell)) r

/-- A well-formed value with blanks around it is passed over, up to the blanks behind it. -/
theorem skip_whole {cell : Cell} (hpadded : cell.IsPadded) (hcell : Spells cell.form cell.text)
    (hr : EndsNumber r) : skip (cell.whole ++ r) = .ok (cell.back ++ r) := by
  have hnone : ∀ s, skipBehind [] s = .ok s := fun s ↦ by
    unfold skipBehind
    rfl
  rw [skip, Cell.whole, List.append_assoc, List.append_assoc, skipInside_append hpadded.1,
    hcell.skipsValue _ _ (endsNumber_append hpadded.2 hr), hnone]

end QueueJournal.Json
