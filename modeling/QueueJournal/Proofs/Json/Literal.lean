import Mathlib.Tactic.SplitIfs
import QueueJournal.Json.Scalar
import QueueJournal.Json.Sequence
import QueueJournal.Json.Writer
import QueueJournal.Text.Bytes

/-!
# What is written is read back

The literals of a JSON text: a string that has been written is read as that string, and a numeral
that stands for an integer of sixty-four bits is read as that integer. A numeral does not end by
itself, so what follows it must not go on with it (`EndsNumber`).

No written literal holds a line feed, nor does any of its bytes, which keeps an entry of a journal
on one line.
-/

namespace QueueJournal

namespace Json

/-! ### Strings -/

/-- A control character is named by four hexadecimal digits. -/
theorem readCodeUnits_of_isControl {c : Char} (hc : isControl c = true) (r : List Char) :
    readCodeUnits
      ('0' :: '0' :: Nat.digitChar (c.toNat / 16) :: Nat.digitChar (c.toNat % 16) :: r) =
      .ok (c, r) := by
  have hlt : c.toNat < 32 := by simpa [isControl] using hc
  have hvalue : ∀ n < 32,
      hexValue? ['0', '0', Nat.digitChar (n / 16), Nat.digitChar (n % 16)] = some n := by decide
  have hcount : ∀ d e : Char, ¬ Text.byteCount ('0' :: '0' :: d :: e :: r) < 4 := fun d e ↦ by
    have hd := d.utf8Size_pos
    have he := e.utf8Size_pos
    simp only [Text.byteCount_cons, show '0'.utf8Size = 1 from rfl]
    omega
  have hfour : readFourHex
      ('0' :: '0' :: Nat.digitChar (c.toNat / 16) :: Nat.digitChar (c.toNat % 16) :: r) =
        .ok (c.toNat, r) := by
    rw [readFourHex, if_neg (hcount _ _)]
    simp only [List.take_succ_cons, List.take_zero, hvalue c.toNat hlt, List.drop_succ_cons,
      List.drop_zero]
  rw [readCodeUnits, hfour]
  simp only
  rw [if_neg (by omega), if_neg (by omega), Char.ofNat_toNat]

/-- An escape is read as the character that is written so. -/
theorem readEscape_of_escape? {c : Char} {e : List Char} (h : escape? c = some e) (r : List Char) :
    ∃ letters, e = '\\' :: letters ∧ readEscape (letters ++ r) = .ok (c, r) := by
  unfold escape? at h
  split_ifs at h with hquote hbackslash hbackspace htab hlineFeed hformFeed hreturn hcontrol
  all_goals obtain rfl := Option.some.inj h
  · exact ⟨['"'], rfl, by rw [hquote]; rfl⟩
  · exact ⟨['\\'], rfl, by rw [hbackslash]; rfl⟩
  · exact ⟨['b'], rfl, by rw [hbackspace]; rfl⟩
  · exact ⟨['t'], rfl, by rw [htab]; rfl⟩
  · exact ⟨['n'], rfl, by rw [hlineFeed]; rfl⟩
  · exact ⟨['f'], rfl, by rw [hformFeed]; rfl⟩
  · exact ⟨['r'], rfl, by rw [hreturn]; rfl⟩
  · exact ⟨_, rfl, readCodeUnits_of_isControl hcontrol r⟩

theorem readChars_of_readEscape {c : Char} {s r cs rest : List Char}
    (hescape : readEscape s = .ok (c, r)) (hrest : readChars r = .ok (cs, rest)) :
    readChars ('\\' :: s) = .ok (c :: cs, rest) := by
  rw [readChars, if_neg (by decide), if_pos rfl]
  split
  · simp_all
  · simp_all

theorem readChars_of_plain {c : Char} {s cs rest : List Char} (hquote : c ≠ '"')
    (hbackslash : c ≠ '\\') (hcontrol : isControl c = false)
    (hrest : readChars s = .ok (cs, rest)) : readChars (c :: s) = .ok (c :: cs, rest) := by
  rw [readChars, if_neg hquote, if_neg hbackslash, hcontrol, if_neg Bool.false_ne_true, hrest]

/-- A character that is not escaped is no quote, no backslash and no control. -/
theorem plain_of_escape?_eq_none {c : Char} (h : escape? c = none) :
    c ≠ '"' ∧ c ≠ '\\' ∧ isControl c = false := by
  unfold escape? at h
  split_ifs at h with hquote hbackslash _ _ _ _ _ hcontrol
  exact ⟨hquote, hbackslash, Bool.eq_false_iff.2 hcontrol⟩

/-- **A written string is read back**, whatever its characters. -/
theorem readChars_flatMap_writeChar (s r : List Char) :
    readChars (s.flatMap writeChar ++ '"' :: r) = .ok (s, r) := by
  induction s with
  | nil => simp [readChars]
  | cons c s ih =>
    rw [List.flatMap_cons, List.append_assoc, writeChar]
    cases hescape : escape? c with
    | some e =>
      obtain ⟨letters, rfl, hletters⟩ :=
        readEscape_of_escape? hescape (s.flatMap writeChar ++ '"' :: r)
      exact readChars_of_readEscape hletters ih
    | none =>
      obtain ⟨hquote, hbackslash, hcontrol⟩ := plain_of_escape?_eq_none hescape
      exact readChars_of_plain hquote hbackslash hcontrol ih

theorem readString_stringPieces (expected : String) (s r : List Char) :
    readString expected ((stringPieces s).flatten ++ r) = .ok (s, r) := by
  rw [flatten_stringPieces, List.append_assoc]
  exact readChars_flatMap_writeChar s r

/-! ### Numerals -/

/-- The text does not go on with a number. -/
def EndsNumber : List Char → Prop
  | [] => True
  | c :: _ => c.isDigit = false ∧ c ≠ '.' ∧ c ≠ 'e' ∧ c ≠ 'E'

theorem takeWhile_isDigit_decimal (n : Nat) {r : List Char} (hr : EndsNumber r) :
    (Text.decimal n ++ r).takeWhile Char.isDigit = Text.decimal n := by
  rw [List.takeWhile_append_of_pos fun c hc ↦ Text.isDigit_of_mem_decimal hc]
  cases r with
  | nil => simp
  | cons c r => simp [hr.1]

theorem skipDigits_decimal (n : Nat) {r : List Char} (hr : EndsNumber r) :
    skipDigits (Text.decimal n ++ r) = r := by
  rw [skipDigits, List.dropWhile_append_of_pos fun c hc ↦ Text.isDigit_of_mem_decimal hc]
  cases r with
  | nil => rfl
  | cons c r => simp [hr.1]

/-- Appending digits makes no number smaller. -/
theorem le_ofDigitChars (n : Nat) (digits : List Char) : n ≤ Nat.ofDigitChars 10 digits n := by
  induction digits generalizing n with
  | nil => exact Nat.le_refl n
  | cons d digits ih =>
    rw [Nat.ofDigitChars_cons]
    exact Nat.le_trans (by omega) (ih _)

/-- A significand that fits takes all digits. -/
theorem absorb_eq {n : Nat} {digits : List Char}
    (h : Nat.ofDigitChars 10 digits n < UInt64.size) :
    absorb n digits = (Nat.ofDigitChars 10 digits n, 0) := by
  induction digits generalizing n with
  | nil => rfl
  | cons d digits ih =>
    rw [Nat.ofDigitChars_cons] at h ⊢
    rw [absorb, ← ih h]
    exact if_pos (Nat.lt_of_le_of_lt (le_ofDigitChars _ digits) h)

theorem absorb_decimal {n : Nat} (h : n < UInt64.size) : absorb 0 (Text.decimal n) = (n, 0) := by
  have hvalue : Nat.ofDigitChars 10 (Text.decimal n) 0 = n := Text.decimalValue_decimal n
  rw [absorb_eq (by rwa [hvalue]), hvalue]

/-- Only the numeral of zero begins with a zero. -/
theorem eq_nil_of_decimal_eq {n : Nat} {digits : List Char} (h : Text.decimal n = '0' :: digits) :
    digits = [] := by
  induction n using Nat.strongRecOn generalizing digits with
  | ind n ih =>
    rw [Text.decimal, Nat.toDigits_eq_if (by decide)] at h
    split at h
    · exact (List.cons.inj h).2.symm
    · -- The numeral of a tenth of the number would be a single zero.
      obtain ⟨d, ds, hds⟩ := List.exists_cons_of_ne_nil (Text.decimal_ne_nil (n / 10))
      rw [← Text.decimal, hds, List.cons_append] at h
      obtain ⟨rfl, -⟩ := List.cons.inj h
      obtain rfl := ih (n / 10) (by omega) hds
      have hvalue := Text.decimalValue_decimal (n / 10)
      rw [hds, show Text.decimalValue ['0'] = 0 from rfl] at hvalue
      omega

/-- A numeral of sixty-four bits is read as the number that it stands for. -/
theorem readMagnitude_decimal (negative : Bool) {n : Nat} (hn : n < UInt64.size) {r : List Char}
    (hr : EndsNumber r) :
    readMagnitude negative (Text.decimal n ++ r) = .ok (finishInteger negative n, r) := by
  have habsorb := absorb_decimal hn
  simp only [readMagnitude, takeWhile_isDigit_decimal n hr, skipDigits_decimal n hr]
  split
  case h_1 hnil => exact absurd hnil (Text.decimal_ne_nil n)
  case h_2 d digits hzero => cases eq_nil_of_decimal_eq hzero
  case h_3 =>
    rw [habsorb]
    split
    case h_1 => exact absurd rfl hr.2.1
    case h_2 => exact absurd rfl hr.2.2.1
    case h_3 => exact absurd rfl hr.2.2.2
    case h_4 => rfl

/-- A numeral begins with a digit. -/
theorem exists_decimal_eq_cons (n : Nat) : ∃ d ds, Text.decimal n = d :: ds ∧ d.isDigit = true := by
  obtain ⟨d, ds, hds⟩ := List.exists_cons_of_ne_nil (Text.decimal_ne_nil n)
  exact ⟨d, ds, hds, Text.isDigit_of_mem_decimal (by rw [hds]; exact List.mem_cons_self)⟩

/-- An integer of sixty-four bits, unsigned or signed, is read back. -/
theorem readNumber_signedDecimal {n : Int} (hlow : -(1 <<< 63 : Nat) ≤ n)
    (hhigh : n < (UInt64.size : Nat)) {r : List Char} (hr : EndsNumber r) :
    readNumber (Text.signedDecimal n ++ r) = .ok (.integer n, r) := by
  have hsize : n.natAbs < UInt64.size := by
    simp only [UInt64.size] at hhigh ⊢
    omega
  rw [Text.signedDecimal]
  split
  case isTrue hnegative =>
    rw [List.cons_append, readNumber, readMagnitude_decimal true hsize hr, finishInteger,
      if_pos rfl, if_neg (by omega), Int.ofNat_natAbs_of_nonpos (Int.le_of_lt hnegative),
      Int.neg_neg]
  case isFalse hnonnegative =>
    obtain ⟨d, ds, hds, hdigit⟩ := exists_decimal_eq_cons n.natAbs
    have hmagnitude := readMagnitude_decimal false hsize hr
    rw [hds, List.cons_append] at hmagnitude ⊢
    unfold readNumber
    split
    case h_1 hminus =>
      rw [(List.cons.inj hminus).1] at hdigit
      cases hdigit
    case h_2 =>
      rw [hmagnitude, finishInteger, if_neg Bool.false_ne_true, Int.natAbs_of_nonneg (by omega)]

/-! ### Values -/

/-- A text that does not begin with a blank is left as it is. -/
theorem skipSpace_cons {c : Char} (hc : isSpace c = false) (s : List Char) :
    skipSpace (c :: s) = c :: s := by
  simp [skipSpace, hc]

theorem isSpace_eq_false_of_beginsNumber {c : Char} (h : beginsNumber c = true) :
    isSpace c = false := by
  rw [Bool.eq_false_iff]
  intro hspace
  simp only [isSpace, Bool.or_eq_true, beq_iff_eq] at hspace
  rcases hspace with ((rfl | rfl) | rfl) | rfl <;> cases h

/-- A numeral begins as numbers do. -/
theorem exists_signedDecimal_eq_cons (n : Int) :
    ∃ c cs, Text.signedDecimal n = c :: cs ∧ beginsNumber c = true := by
  rw [Text.signedDecimal]
  split
  · exact ⟨'-', _, rfl, rfl⟩
  · obtain ⟨d, ds, hds, hdigit⟩ := exists_decimal_eq_cons n.natAbs
    exact ⟨d, ds, hds, by simp [beginsNumber, hdigit]⟩

/-- An integer that fits its bounds is read back. -/
theorem readInteger_signedDecimal (expected : String) {low high n : Int} (hlow : low ≤ n)
    (hhigh : n ≤ high) (hsmall : -(1 <<< 63 : Nat) ≤ n) (hgreat : n < (UInt64.size : Nat))
    {r : List Char} (hr : EndsNumber r) :
    readInteger expected low high (Text.signedDecimal n ++ r) = .ok (n, r) := by
  have hnumber := readNumber_signedDecimal hsmall hgreat hr
  obtain ⟨c, cs, hcs, hbegins⟩ := exists_signedDecimal_eq_cons n
  rw [hcs, List.cons_append] at hnumber ⊢
  rw [readInteger, skipSpace_cons (isSpace_eq_false_of_beginsNumber hbegins)]
  simp only
  rw [if_pos hbegins, hnumber]
  exact if_pos ⟨hlow, hhigh⟩

theorem signedDecimal_natCast (n : Nat) : Text.signedDecimal n = Text.decimal n := by
  rw [Text.signedDecimal, if_neg (by omega), Int.natAbs_natCast]

theorem readNat_decimal (expected : String) {n : Nat} (hn : n < UInt64.size) {r : List Char}
    (hr : EndsNumber r) : readNat expected (Text.decimal n ++ r) = .ok (n, r) := by
  have hinteger : readInteger expected 0 (UInt64.size - 1 : Nat) (Text.decimal n ++ r) =
      .ok ((n : Int), r) := by
    rw [← signedDecimal_natCast]
    exact readInteger_signedDecimal expected (by omega) (by omega) (by omega) (by omega) hr
  rw [readNat, hinteger]
  rfl

/-- A value that is there, and does not begin as `null` does, is read by itself. -/
theorem readOption_cons {α : Type} (read : List Char → Except Fault (α × List Char)) {c : Char}
    (hspace : isSpace c = false) (hnull : c ≠ 'n') (s : List Char) :
    readOption read (c :: s) = (read (c :: s)).map fun (a, r) ↦ (some a, r) := by
  rw [readOption, skipSpace_cons hspace]
  split
  case h_1 heq => exact absurd (List.cons.inj heq).1 hnull
  case h_2 => cases read (c :: s) <;> rfl

theorem readOption_signedDecimal {α : Type} {read : List Char → Except Fault (α × List Char)}
    {n : Int} {r : List Char} {a : α} (h : read (Text.signedDecimal n ++ r) = .ok (a, r)) :
    readOption read (Text.signedDecimal n ++ r) = .ok (some a, r) := by
  obtain ⟨c, cs, hcs, hbegins⟩ := exists_signedDecimal_eq_cons n
  have hnull : c ≠ 'n' := by
    rintro rfl
    cases hbegins
  rw [hcs, List.cons_append] at h ⊢
  rw [readOption_cons read (isSpace_eq_false_of_beginsNumber hbegins) hnull, h]
  rfl

theorem readOption_stringPieces {α : Type} {read : List Char → Except Fault (α × List Char)}
    {s r : List Char} {a : α} (h : read ((stringPieces s).flatten ++ r) = .ok (a, r)) :
    readOption read ((stringPieces s).flatten ++ r) = .ok (some a, r) := by
  rw [flatten_stringPieces, List.cons_append, List.cons_append] at h ⊢
  rw [readOption_cons read (by decide) (by decide), h]
  rfl

theorem readBool_word (b : Bool) (r : List Char) :
    readBool ((if b then "true" else "false").toList ++ r) = .ok (b, r) := by
  cases b with
  | true => rfl
  | false => rfl

/-! ### Elements and keys that have been written -/

theorem nextElement_done (first : Bool) (r : List Char) :
    nextElement first (']' :: r) = .ok (.done r) := by
  rw [nextElement, skipSpace_cons (by decide)]
  rfl

theorem nextElement_more (first : Bool) {c : Char} (hspace : isSpace c = false) (hclose : c ≠ ']')
    (s : List Char) :
    nextElement first ((comma first).flatten ++ c :: s) = .ok (.more (c :: s)) := by
  cases first with
  | true =>
    rw [show (comma true).flatten ++ c :: s = c :: s from rfl, nextElement, skipSpace_cons hspace]
    simp only [if_neg hclose, if_true]
  | false =>
    have hafter : elementAfterComma (c :: s) = .ok (.more (c :: s)) := by
      rw [elementAfterComma, skipSpace_cons hspace]
      exact if_neg hclose
    rw [show (comma false).flatten ++ c :: s = ',' :: c :: s from rfl, nextElement,
      skipSpace_cons (by decide), ← hafter]
    rfl

theorem nextKey_done (first : Bool) (r : List Char) :
    nextKey first ('\x7d' :: r) = .ok (.done r) := by
  rw [nextKey, skipSpace_cons (by decide)]
  rfl

theorem nextKey_more (first : Bool) (key r : List Char) :
    nextKey first ((comma first).flatten ++ ((stringPieces key).flatten ++ r)) =
      .ok (.more key r) := by
  let quoted := key.flatMap writeChar ++ '"' :: r
  have hkey : keyAt '"' quoted = .ok (.more key r) := by
    rw [keyAt, if_pos rfl, readChars_flatMap_writeChar]
  have hpieces : (stringPieces key).flatten ++ r = '"' :: quoted := by
    simp [flatten_stringPieces, quoted]
  rw [hpieces, ← hkey]
  cases first with
  | true =>
    rw [show (comma true).flatten ++ '"' :: quoted = '"' :: quoted from rfl, nextKey,
      skipSpace_cons (by decide)]
    rfl
  | false =>
    have hafter : keyAfterComma ('"' :: quoted) = keyAt '"' quoted := by
      rw [keyAfterComma, skipSpace_cons (by decide)]
      exact if_neg (by decide)
    rw [show (comma false).flatten ++ '"' :: quoted = ',' :: '"' :: quoted from rfl, nextKey,
      skipSpace_cons (by decide), ← hafter]
    rfl

theorem readColon_cons (r : List Char) : readColon (':' :: r) = .ok r := by
  rw [readColon, skipSpace_cons (by decide)]
  rfl

/-! ### Line feeds -/

theorem lineFeed_notMem_decimal (n : Nat) : '\n' ∉ Text.decimal n := fun h ↦ by
  cases Text.isDigit_of_mem_decimal h

theorem lineFeed_notMem_signedDecimal (n : Int) : '\n' ∉ Text.signedDecimal n := by
  rw [Text.signedDecimal]
  split
  · simp [lineFeed_notMem_decimal]
  · exact lineFeed_notMem_decimal _

theorem lineFeed_notMem_escape {c : Char} {e : List Char} (h : escape? c = some e) :
    '\n' ∉ e := by
  have hdigits : ∀ n < 32, '\n' ∉
      ['\\', 'u', '0', '0'] ++ [Nat.digitChar (n / 16), Nat.digitChar (n % 16)] := by decide
  unfold escape? at h
  split_ifs at h with hquote hbackslash hbackspace htab hlineFeed hformFeed hreturn hcontrol
  all_goals obtain rfl := Option.some.inj h
  all_goals first
    | decide
    | exact hdigits c.toNat (by simpa [isControl] using hcontrol)

theorem lineFeed_notMem_writeChar (c : Char) : '\n' ∉ writeChar c := by
  rw [writeChar]
  cases hescape : escape? c with
  | some e => exact lineFeed_notMem_escape hescape
  | none =>
    obtain ⟨-, -, hcontrol⟩ := plain_of_escape?_eq_none hescape
    rw [Option.getD_none, List.mem_singleton]
    rintro rfl
    cases hcontrol

theorem lineFeed_notMem_stringPieces (s : List Char) : '\n' ∉ (stringPieces s).flatten := by
  rw [flatten_stringPieces]
  simp [lineFeed_notMem_writeChar]

end Json

end QueueJournal
