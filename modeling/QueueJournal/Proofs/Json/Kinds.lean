import QueueJournal.Proofs.Json.Skipping

/-!
# Values of a known kind in well-formed texts

A reader that expects a value of one kind accepts a well-formed text exactly if it says a value of
that kind; then it gives that value and stops behind it. All else is refused, however it is spelled:
the first character tells the kind.

The readers of arrays and objects find the elements and the keys where they are spelled, with a
comma in front of each but the first.
-/

namespace QueueJournal.Json

variable {form : Form} {t r r' w : List Char} {c : Char}

/-! ### Numbers -/

/-- The form is the numeral of a number of sixty-four bits. -/
def Form.IsNat (form : Form) (n : Nat) : Prop :=
  form = .number (Text.decimal n) ∧ n < UInt64.size

theorem beginsNumber_of_readNat {expected : String} {n : Nat} {s : List Char}
    (hspace : isSpace c = false) (h : readNat expected (c :: s) = .ok (n, r)) :
    beginsNumber c = true ∧ ∃ m : Int, 0 ≤ m ∧ m.toNat = n ∧
      readNumber (c :: s) = .ok (.integer m, r) := by
  rw [readNat] at h
  split at h
  case h_1 => cases h
  case h_2 hinteger =>
    obtain ⟨rfl, rfl⟩ := Prod.mk.inj (Except.ok.inj h)
    rw [readInteger, skipSpace_cons hspace] at hinteger
    simp only at hinteger
    split at hinteger
    case isFalse => cases hinteger
    case isTrue hc =>
      split at hinteger
      case h_1 => cases hinteger
      case h_2 hread =>
        split at hinteger
        case isFalse => cases hinteger
        case isTrue hbounds =>
          obtain ⟨rfl, rfl⟩ := Prod.mk.inj (Except.ok.inj hinteger)
          exact ⟨hc, _, hbounds.1, rfl, hread⟩
      case h_3 => cases hinteger

/-- **A natural number is read exactly from its numeral.** -/
theorem Spells.readNat_iff (h : Spells form t) (hr : EndsNumber r) {expected : String} {n : Nat} :
    readNat expected (t ++ r) = .ok (n, r') ↔ form.IsNat n ∧ r' = r := by
  constructor
  · intro hread
    obtain ⟨c, s, hs, hbegins⟩ := h.exists_begins
    rw [hs, List.cons_append] at hread
    obtain ⟨hc, m, hm, rfl, hnumber⟩ := beginsNumber_of_readNat hbegins.isSpace_eq_false hread
    rw [← List.cons_append, ← hs] at hnumber
    cases hbegins with
    | number =>
      cases h with | number h =>
      obtain ⟨rfl, hlt, hrest⟩ := h.eq_decimal_of_readNumber hr hm hnumber
      exact ⟨⟨rfl, by omega⟩, hrest⟩
    | _ => cases hc
  · rintro ⟨⟨rfl, hn⟩, rfl⟩
    cases h with | number =>
    exact readNat_decimal expected hn hr

/-! ### Strings -/

theorem eq_quote_of_readString {expected : String} {cs s : List Char} (hspace : isSpace c = false)
    (h : readString expected (c :: s) = .ok (cs, r)) : c = '"' ∧ readChars s = .ok (cs, r) := by
  rw [readString, skipSpace_cons hspace] at h
  split at h
  case h_1 heq => cases heq
  case h_2 heq =>
    obtain ⟨rfl, rfl⟩ := List.cons.inj heq
    exact ⟨rfl, h⟩
  case h_3 => cases h

/-- **A string is read exactly where one is spelled.** -/
theorem Spells.readString_iff (h : Spells form t) {expected : String} {cs : List Char} :
    readString expected (t ++ r) = .ok (cs, r') ↔ form = .string cs ∧ r' = r := by
  constructor
  · intro hread
    obtain ⟨c, s, hs, hbegins⟩ := h.exists_begins
    rw [hs, List.cons_append] at hread
    obtain ⟨hc, hchars⟩ := eq_quote_of_readString hbegins.isSpace_eq_false hread
    cases hbegins with
    | string =>
      cases h with | string h =>
      obtain ⟨-, rfl⟩ := List.cons.inj hs
      rw [List.append_assoc, List.singleton_append, h.readChars] at hchars
      obtain ⟨rfl, rfl⟩ := Prod.mk.inj (Except.ok.inj hchars)
      exact ⟨rfl, rfl⟩
    | number hbegins =>
      rw [hc] at hbegins
      cases hbegins
    | _ => cases hc
  · rintro ⟨rfl, rfl⟩
    cases h with | string h =>
    rw [List.cons_append, List.append_assoc, readString, skipSpace_cons (by decide)]
    exact h.readChars _

/-! ### Words -/

theorem readBool_cons {b : Bool} {s : List Char} (hspace : isSpace c = false)
    (h : readBool (c :: s) = .ok (b, r)) : c = 't' ∨ c = 'f' := by
  rw [readBool, skipSpace_cons hspace] at h
  split at h
  case h_1 heq => cases heq
  case h_2 heq => exact .inl (List.cons.inj heq).1
  case h_3 heq => exact .inr (List.cons.inj heq).1
  case h_4 => cases h

/-- **A truth value is read exactly where one is spelled.** -/
theorem Spells.readBool_iff (h : Spells form t) {b : Bool} :
    readBool (t ++ r) = .ok (b, r') ↔ form = .bool b ∧ r' = r := by
  have hword : ∀ b : Bool, Spells (.bool b) t → t = (if b then "true" else "false").toList :=
    fun b h ↦ by cases h; rfl
  constructor
  · intro hread
    obtain ⟨c, s, hs, hbegins⟩ := h.exists_begins
    have hc : c = 't' ∨ c = 'f' := by
      rw [hs, List.cons_append] at hread
      exact readBool_cons hbegins.isSpace_eq_false hread
    cases hbegins with
    | isTrue =>
      rw [hword true h, readBool_word true] at hread
      obtain ⟨rfl, rfl⟩ := Prod.mk.inj (Except.ok.inj hread)
      exact ⟨rfl, rfl⟩
    | isFalse =>
      rw [hword false h, readBool_word false] at hread
      obtain ⟨rfl, rfl⟩ := Prod.mk.inj (Except.ok.inj hread)
      exact ⟨rfl, rfl⟩
    | number hbegins => rcases hc with rfl | rfl <;> cases hbegins
    | _ => rcases hc with hc | hc <;> cases hc
  · rintro ⟨rfl, rfl⟩
    rw [hword b h, readBool_word]

theorem eq_n_of_readNull {s : List Char} (hspace : isSpace c = false)
    (h : readNull (c :: s) = .ok r) : c = 'n' := by
  rw [readNull, skipSpace_cons hspace] at h
  split at h
  case h_1 heq => cases heq
  case h_2 heq => exact (List.cons.inj heq).1
  case h_3 => cases h

theorem Begins.eq_null (h : Begins form 'n') : form = .null := by
  cases h with
  | null => rfl
  | number hc => cases hc

theorem Spells.readNull_iff (h : Spells form t) :
    readNull (t ++ r) = .ok r' ↔ form = .null ∧ r' = r := by
  constructor
  · intro hread
    obtain ⟨c, s, hs, hbegins⟩ := h.exists_begins
    obtain rfl : c = 'n' := by
      rw [hs, List.cons_append] at hread
      exact eq_n_of_readNull hbegins.isSpace_eq_false hread
    obtain rfl := hbegins.eq_null
    cases h
    exact ⟨rfl, (Except.ok.inj hread).symm⟩
  · rintro ⟨rfl, rfl⟩
    cases h
    rfl

/-- **A value that may be missing is missing exactly where `null` is spelled.** -/
theorem Spells.readOption_iff {α : Type} {read : List Char → Except Fault (α × List Char)}
    (h : Spells form t) {o : Option α} : readOption read (t ++ r) = .ok (o, r') ↔
      (form = .null ∧ o = none ∧ r' = r) ∨
        form ≠ .null ∧ ∃ a, o = some a ∧ read (t ++ r) = .ok (a, r') := by
  obtain ⟨c, s, hs, hbegins⟩ := h.exists_begins
  by_cases hc : c = 'n'
  · obtain rfl := hc
    obtain rfl := hbegins.eq_null
    cases h
    have hnull : readOption read ("null".toList ++ r) = .ok (none, r) := rfl
    rw [hnull]
    constructor
    · intro h
      obtain ⟨rfl, rfl⟩ := Prod.mk.inj (Except.ok.inj h)
      exact .inl ⟨rfl, rfl, rfl⟩
    · rintro (⟨-, rfl, rfl⟩ | ⟨hne, -⟩)
      · rfl
      · exact absurd rfl hne
  · -- No other form begins with this letter, and neither does the reader look further.
    have hne : form ≠ .null := by
      rintro rfl
      cases hbegins
      exact hc rfl
    rw [hs, List.cons_append, readOption_cons read hbegins.isSpace_eq_false hc]
    cases hread : read (c :: (s ++ r)) with
    | error fault => simp [Except.map, hne]
    | ok p =>
      constructor
      · intro h
        obtain ⟨rfl, rfl⟩ := Prod.mk.inj (Except.ok.inj h)
        exact .inr ⟨hne, p.1, rfl, rfl⟩
      · rintro (⟨hnull, -⟩ | ⟨-, a, rfl, hok⟩)
        · exact absurd hnull hne
        · rw [Except.ok.inj hok]
          rfl

/-! ### Elements and members -/

theorem nextElement_append_done (hw : IsBlank w) (first : Bool) (r : List Char) :
    nextElement first (w ++ ']' :: r) = .ok (.done r) := by
  rw [← nextElement_done first r, nextElement, nextElement, skipSpace_append hw]

theorem nextKey_append_done (hw : IsBlank w) (first : Bool) (r : List Char) :
    nextKey first (w ++ '\x7d' :: r) = .ok (.done r) := by
  rw [← nextKey_done first r, nextKey, nextKey, skipSpace_append hw]

/-- An element is found behind the blanks in front of it. -/
theorem nextElement_whole {cell : Cell} (hpadded : cell.IsPadded)
    (hcell : Spells cell.form cell.text) (s : List Char) :
    nextElement true (cell.whole ++ s) = .ok (.more (cell.text ++ (cell.back ++ s))) := by
  obtain ⟨c, t, ht, hbegins⟩ := hcell.exists_begins
  rw [Cell.whole, List.append_assoc, List.append_assoc, nextElement, skipSpace_append hpadded.1, ht,
    List.cons_append, skipSpace_cons hbegins.isSpace_eq_false]
  simp only [if_neg hbegins.ne_bracket, if_true]

theorem nextElement_comma {cell : Cell} (hpadded : cell.IsPadded) (hw : IsBlank w)
    (hcell : Spells cell.form cell.text) (s : List Char) :
    nextElement false (w ++ ',' :: (cell.whole ++ s)) =
      .ok (.more (cell.text ++ (cell.back ++ s))) := by
  obtain ⟨c, t, ht, hbegins⟩ := hcell.exists_begins
  have hafter : elementAfterComma (cell.whole ++ s) =
      .ok (.more (cell.text ++ (cell.back ++ s))) := by
    rw [Cell.whole, List.append_assoc, List.append_assoc, elementAfterComma,
      skipSpace_append hpadded.1, ht, List.cons_append, skipSpace_cons hbegins.isSpace_eq_false]
    exact if_neg hbegins.ne_bracket
  rw [nextElement, skipSpace_append_cons hw (by decide), ← hafter]
  rfl

theorem keyAt_quote {key keyText : List Char} (hkey : SpellsChars key keyText) (r : List Char) :
    keyAt '"' (keyText ++ '"' :: r) = .ok (.more key r) := by
  rw [keyAt, if_pos rfl, hkey.readChars]

/-- A key is found, and what stands behind its quotes. -/
theorem nextKey_line {cell : KeyedCell} (hkeyed : cell.IsKeyed) (s : List Char) :
    nextKey true (cell.line ++ s) =
      .ok (.more cell.key (cell.keyBack ++ ':' :: (cell.whole ++ s))) := by
  rw [cell.line_append, nextKey, skipSpace_append_cons hkeyed.keyFront (by decide)]
  exact keyAt_quote hkeyed.key _

theorem nextKey_comma {cell : KeyedCell} (hkeyed : cell.IsKeyed) (hw : IsBlank w) (s : List Char) :
    nextKey false (w ++ ',' :: (cell.line ++ s)) =
      .ok (.more cell.key (cell.keyBack ++ ':' :: (cell.whole ++ s))) := by
  have hafter : keyAfterComma (cell.line ++ s) =
      .ok (.more cell.key (cell.keyBack ++ ':' :: (cell.whole ++ s))) := by
    rw [cell.line_append, keyAfterComma, skipSpace_append_cons hkeyed.keyFront (by decide)]
    exact keyAt_quote hkeyed.key _
  rw [nextKey, skipSpace_append_cons hw (by decide), ← hafter]
  rfl

end QueueJournal.Json
