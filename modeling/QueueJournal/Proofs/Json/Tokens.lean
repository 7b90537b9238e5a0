import Mathlib.Data.List.Induction
import QueueJournal.Proofs.Json.Grammar

/-!
# Strings and numbers of well-formed texts

A string is read as what it says, however its characters are spelled (`SpellsChars.readChars`), and
passed over (`SpellsChars.skipChars`). So is a number (`IsNumber.skipNumber`), which is read as a
natural number only if it is the numeral of one: no sign, no fraction, no exponent, no zero in front
(`IsNumber.eq_decimal_of_readNumber`).
-/

namespace QueueJournal.Json

/-! ### Strings -/

theorem length_le_byteCount (s : List Char) : s.length ≤ Text.byteCount s := by
  induction s with
  | nil => exact Nat.le_refl 0
  | cons c s ih =>
    have := c.utf8Size_pos
    rw [List.length_cons, Text.byteCount_cons]
    omega

theorem readFourHex_append {digits : List Char} {n : Nat} (h : IsCodeUnit digits n)
    (r : List Char) : readFourHex (digits ++ r) = .ok (n, r) := by
  obtain ⟨hlength, hvalue⟩ := h
  have hcount := length_le_byteCount (digits ++ r)
  rw [List.length_append, hlength] at hcount
  rw [readFourHex, if_neg (by omega), ← hlength, List.take_left, List.drop_left, hvalue]

theorem readEscape_unit {digits : List Char} {n : Nat} (h : IsCodeUnit digits n)
    (hn : n < 0xd800 ∨ 0xdfff < n) (r : List Char) :
    readEscape ('u' :: (digits ++ r)) = .ok (Char.ofNat n, r) := by
  have hunits : readCodeUnits (digits ++ r) = .ok (Char.ofNat n, r) := by
    rw [readCodeUnits, readFourHex_append h]
    simp only
    rw [if_neg (by omega), if_neg (by omega)]
  exact hunits

theorem readEscape_pair {digits digits' : List Char} {high low : Nat} (h : IsCodeUnit digits high)
    (hhigh : 0xd800 ≤ high ∧ high ≤ 0xdbff) (h' : IsCodeUnit digits' low)
    (hlow : 0xdc00 ≤ low ∧ low ≤ 0xdfff) (r : List Char) :
    readEscape ('u' :: (digits ++ '\\' :: 'u' :: (digits' ++ r))) =
      .ok (Char.ofNat (0x10000 + (high - 0xd800) * 0x400 + (low - 0xdc00)), r) := by
  have hsecond : readLowSurrogate high ('\\' :: 'u' :: (digits' ++ r)) =
      .ok (Char.ofNat (0x10000 + (high - 0xd800) * 0x400 + (low - 0xdc00)), r) := by
    rw [readLowSurrogate, readFourHex_append h']
    simp only
    rw [if_pos hlow]
  have hunits : readCodeUnits (digits ++ '\\' :: 'u' :: (digits' ++ r)) =
      readLowSurrogate high ('\\' :: 'u' :: (digits' ++ r)) := by
    rw [readCodeUnits, readFourHex_append h]
    simp only
    rw [if_neg (by omega), if_pos hhigh]
  exact hunits.trans hsecond

theorem shortEscape?_of_mem {letter c : Char}
    (h : (letter, c) ∈ [('"', '"'), ('\\', '\\'), ('/', '/'),
      ('b', '\x08'), ('f', '\x0c'), ('n', '\n'), ('r', '\r'), ('t', '\t')]) :
    shortEscape? letter = some c := by
  have hall : ∀ p ∈ [('"', '"'), ('\\', '\\'), ('/', '/'), ('b', '\x08'), ('f', '\x0c'),
      ('n', '\n'), ('r', '\r'), ('t', '\t')], shortEscape? p.1 = some p.2 := by decide
  exact hall _ h

theorem readEscape_short {letter c : Char} (h : shortEscape? letter = some c) (r : List Char) :
    readEscape (letter :: r) = .ok (c, r) := by
  simp only [readEscape, h]

/-- **A string is read as what it says.** -/
theorem SpellsChars.readChars {s t : List Char} (h : SpellsChars s t) (r : List Char) :
    Json.readChars (t ++ '"' :: r) = .ok (s, r) := by
  induction h with
  | nil => simp [Json.readChars]
  | @cons c s t ts hc _ ih =>
    rw [List.append_assoc]
    cases hc with
    | plain hquote hbackslash hcontrol => exact readChars_of_plain hquote hbackslash hcontrol ih
    | short hletter =>
      exact readChars_of_readEscape (readEscape_short (shortEscape?_of_mem hletter) _) ih
    | unit hdigits hn hc =>
      rw [hc]
      exact readChars_of_readEscape (readEscape_unit hdigits hn _) ih
    | pair hdigits hhigh hdigits' hlow hc =>
      rw [hc]
      simp only [List.cons_append, List.append_assoc]
      exact readChars_of_readEscape (readEscape_pair hdigits hhigh hdigits' hlow _) ih

theorem skipChars_quote (r : List Char) : skipChars ('"' :: r) = .ok r := by
  rw [skipChars, if_pos rfl]

theorem skipChars_of_skipEscape {s r : List Char} (h : skipEscape s = .ok r) :
    skipChars ('\\' :: s) = skipChars r := by
  rw [skipChars, if_neg (by decide), if_pos rfl]
  split
  case h_1 herror => rw [h] at herror; cases herror
  case h_2 hok => rw [Except.ok.inj (h.symm.trans hok)]

theorem skipChars_of_plain {c : Char} {s : List Char} (hquote : c ≠ '"') (hbackslash : c ≠ '\\')
    (hcontrol : isControl c = false) : skipChars (c :: s) = skipChars s := by
  rw [skipChars, if_neg hquote, if_neg hbackslash, hcontrol, if_neg Bool.false_ne_true]

theorem skipEscape_short {letter c : Char} (h : shortEscape? letter = some c) (r : List Char) :
    skipEscape (letter :: r) = .ok r := by
  rw [skipEscape, h]
  rfl

theorem skipEscape_unit {digits : List Char} {n : Nat} (h : IsCodeUnit digits n) (r : List Char) :
    skipEscape ('u' :: (digits ++ r)) = .ok r := by
  rw [skipEscape, if_neg (by decide), if_pos rfl, readFourHex_append h]

/-- A string is passed over. -/
theorem SpellsChars.skipChars {s t : List Char} (h : SpellsChars s t) (r : List Char) :
    Json.skipChars (t ++ '"' :: r) = .ok r := by
  induction h with
  | nil => exact skipChars_quote r
  | @cons c s t ts hc _ ih =>
    rw [List.append_assoc, ← ih]
    cases hc with
    | plain hquote hbackslash hcontrol => exact skipChars_of_plain hquote hbackslash hcontrol
    | short hletter =>
      exact skipChars_of_skipEscape (skipEscape_short (shortEscape?_of_mem hletter) _)
    | unit hdigits _ _ => exact skipChars_of_skipEscape (skipEscape_unit hdigits _)
    | @pair _ digits' _ _ hdigits _ hdigits' _ _ =>
      have hsecond := skipChars_of_skipEscape (skipEscape_unit hdigits' (ts ++ '"' :: r))
      rw [← hsecond]
      simp only [List.cons_append, List.append_assoc]
      exact skipChars_of_skipEscape (skipEscape_unit hdigits _)

/-! ### Numbers -/

/-- What follows does not go on with the digits. -/
def EndsDigits (r : List Char) : Prop :=
  ∀ c, r.head? = some c → c.isDigit = false

theorem EndsNumber.endsDigits {r : List Char} (h : EndsNumber r) : EndsDigits r := by
  cases r with
  | nil => nofun
  | cons c r => exact fun c' hc' ↦ Option.some.inj hc' ▸ h.1

theorem skipDigits_append {digits r : List Char} (h : ∀ c ∈ digits, c.isDigit = true)
    (hr : EndsDigits r) : skipDigits (digits ++ r) = r := by
  rw [skipDigits, List.dropWhile_append_of_pos h]
  cases r with
  | nil => rfl
  | cons c r => simp [hr c rfl]

theorem takeWhile_digits_append {digits r : List Char} (h : ∀ c ∈ digits, c.isDigit = true)
    (hr : EndsDigits r) : (digits ++ r).takeWhile Char.isDigit = digits := by
  rw [List.takeWhile_append_of_pos h]
  cases r with
  | nil => simp
  | cons c r => simp [hr c rfl]

theorem IsDigits.exists_cons {digits : List Char} (h : IsDigits digits) :
    ∃ d ds, digits = d :: ds ∧ d.isDigit = true ∧ ∀ c ∈ ds, c.isDigit = true := by
  obtain ⟨d, ds, rfl⟩ := List.exists_cons_of_ne_nil h.1
  obtain ⟨hd, hds⟩ := List.forall_mem_cons.1 h.2
  exact ⟨d, ds, rfl, hd, hds⟩

/-- Behind the digits in front of the point. -/
theorem endsDigits_fraction {fraction exponent r : List Char} (hfraction : IsFraction fraction)
    (hexponent : IsExponent exponent) (hr : EndsNumber r) :
    EndsDigits (fraction ++ (exponent ++ r)) := by
  rcases hfraction with rfl | ⟨digits, -, rfl⟩
  · rcases hexponent with rfl | ⟨letter, sign, digits, rfl | rfl, -, -, rfl⟩
    · exact hr.endsDigits
    · exact fun c hc ↦ Option.some.inj hc ▸ rfl
    · exact fun c hc ↦ Option.some.inj hc ▸ rfl
  · exact fun c hc ↦ Option.some.inj hc ▸ rfl

theorem takeExponentSign_append {sign digits r : List Char}
    (hsign : sign = [] ∨ sign = ['+'] ∨ sign = ['-']) (hdigits : IsDigits digits) :
    (takeExponentSign (sign ++ (digits ++ r))).2 = digits ++ r := by
  obtain ⟨d, ds, rfl, hd, -⟩ := hdigits.exists_cons
  rcases hsign with rfl | rfl | rfl
  · rw [List.nil_append, List.cons_append]
    unfold takeExponentSign
    split
    case h_1 h => rw [(List.cons.inj h).1] at hd; cases hd
    case h_2 h => rw [(List.cons.inj h).1] at hd; cases hd
    case h_3 => rfl
  · rfl
  · rfl

theorem skipDecimalTail_append {exponent r : List Char} (hexponent : IsExponent exponent)
    (hr : EndsNumber r) : skipDecimalTail (exponent ++ r) = .ok r := by
  rcases hexponent with rfl | ⟨letter, sign, digits, hletter, hsign, hdigits, rfl⟩
  · rw [List.nil_append]
    unfold skipDecimalTail
    split
    case h_1 => exact absurd rfl hr.2.2.1
    case h_2 => exact absurd rfl hr.2.2.2
    case h_3 => rfl
  · have hexp : skipExponent (sign ++ (digits ++ r)) = .ok r := by
      obtain ⟨d, ds, rfl, hd, hds⟩ := hdigits.exists_cons
      simp only [skipExponent, takeExponentSign_append (r := r) hsign
        ⟨List.cons_ne_nil _ _, List.forall_mem_cons.2 ⟨hd, hds⟩⟩]
      rw [List.cons_append]
      simp only [hd, if_true, skipDigits_append hds hr.endsDigits]
    rw [List.cons_append, List.append_assoc, ← hexp]
    rcases hletter with rfl | rfl <;> rfl

theorem skipNumberTail_append {fraction exponent r : List Char} (hfraction : IsFraction fraction)
    (hexponent : IsExponent exponent) (hr : EndsNumber r) :
    skipNumberTail (fraction ++ (exponent ++ r)) = .ok r := by
  rw [← skipDecimalTail_append hexponent hr]
  rcases hfraction with rfl | ⟨digits, hdigits, rfl⟩
  · rw [List.nil_append]
    unfold skipNumberTail
    split
    case h_1 h =>
      rcases hexponent with rfl | ⟨letter, sign, digits, rfl | rfl, -, -, rfl⟩
      · rw [List.nil_append] at h
        exact absurd rfl (h ▸ hr : EndsNumber ('.' :: _)).2.1
      · cases h
      · cases h
    case h_2 => rfl
  · obtain ⟨d, ds, rfl, hd, hds⟩ := hdigits.exists_cons
    have hends : EndsDigits (exponent ++ r) := endsDigits_fraction (.inl rfl) hexponent hr
    rw [List.cons_append, List.cons_append, skipNumberTail, skipFraction, if_pos hd,
      skipDigits_append hds hends]

theorem skipMagnitude_append {whole fraction exponent r : List Char} (hwhole : IsWhole whole)
    (hfraction : IsFraction fraction) (hexponent : IsExponent exponent) (hr : EndsNumber r) :
    skipMagnitude (whole ++ (fraction ++ (exponent ++ r))) = .ok r := by
  have htail := skipNumberTail_append hfraction hexponent hr
  have hends := endsDigits_fraction hfraction hexponent hr
  obtain ⟨d, ds, rfl, hd, hds⟩ := hwhole.1.exists_cons
  by_cases hzero : d = '0'
  · obtain ⟨-, rfl⟩ := List.cons.inj (hwhole.2 (congrArg some hzero))
    rw [hzero, List.cons_append, List.nil_append]
    cases hrest : fraction ++ (exponent ++ r) with
    | nil => rw [hrest] at htail; exact htail
    | cons c rest =>
      rw [hrest] at htail hends
      simp only [skipMagnitude, if_true, hends c rfl, Bool.false_eq_true, if_false, htail]
  · rw [List.cons_append]
    simp only [skipMagnitude, if_neg hzero, hd, if_true, skipDigits_append hds hends, htail]

/-- A number is passed over. -/
theorem IsNumber.skipNumber {literal r : List Char} (h : IsNumber literal) (hr : EndsNumber r) :
    Json.skipNumber (literal ++ r) = .ok r := by
  cases h with
  | parts hsign hwhole hfraction hexponent =>
    have hmagnitude := skipMagnitude_append hwhole hfraction hexponent hr
    rw [List.append_assoc, List.append_assoc, List.append_assoc, ← hmagnitude]
    rcases hsign with rfl | rfl
    · obtain ⟨d, ds, rfl, hd, -⟩ := hwhole.1.exists_cons
      rw [List.nil_append, List.cons_append]
      unfold Json.skipNumber
      split
      case h_1 h => rw [(List.cons.inj h).1] at hd; cases hd
      case h_2 => rfl
    · rfl

/-! ### Integers -/

/-- A number with a fraction or an exponent, or one that does not fit, is a floating-point
number. -/
theorem not_integer_of_finishDecimal {negative : Bool} {significand : Nat} {exponent n : Int}
    {s r : List Char} : finishDecimal negative significand exponent s ≠ .ok (.integer n, r) := by
  rw [finishDecimal]
  split
  · exact fun h ↦ by cases (Prod.mk.inj (Except.ok.inj h)).1
  · exact fun h ↦ by cases h

theorem not_integer_of_readExponent {negative : Bool} {significand : Nat} {exponent : Int} {n : Int}
    {s r : List Char} : readExponent negative significand exponent s ≠ .ok (.integer n, r) := by
  simp only [readExponent]
  split
  · exact fun h ↦ by cases h
  · split
    · split
      · exact not_integer_of_finishDecimal
      · split
        · exact fun h ↦ by cases h
        · exact fun h ↦ by cases (Prod.mk.inj (Except.ok.inj h)).1
    · exact fun h ↦ by cases h

theorem not_integer_of_readFraction {negative : Bool} {significand : Nat} {exponent : Int} {n : Int}
    {s r : List Char} : readFraction negative significand exponent s ≠ .ok (.integer n, r) := by
  simp only [readFraction]
  split
  · exact fun h ↦ by cases h
  · split
    · unfold readDecimalTail
      split
      · exact not_integer_of_readExponent
      · exact not_integer_of_readExponent
      · exact not_integer_of_finishDecimal
    · exact fun h ↦ by cases h

theorem absorb_eq_zero {n m : Nat} {digits : List Char} (h : absorb n digits = (m, 0)) :
    m = Nat.ofDigitChars 10 digits n ∧ (n < UInt64.size → m < UInt64.size) := by
  induction digits generalizing n with
  | nil =>
    obtain ⟨rfl, -⟩ := Prod.mk.inj h
    exact ⟨rfl, id⟩
  | cons d digits ih =>
    rw [absorb] at h
    split at h
    case isTrue hnext =>
      obtain ⟨hm, hlt⟩ := ih h
      exact ⟨hm.trans (Nat.ofDigitChars_cons ..).symm, fun _ ↦ hlt hnext⟩
    case isFalse => cases (Prod.mk.inj h).2

/-- **An integer is read from digits only**, and all of them count. -/
theorem integer_of_readMagnitude {negative : Bool} {n : Int} {s r : List Char}
    (h : readMagnitude negative s = .ok (.integer n, r)) :
    finishInteger negative (Text.decimalValue (s.takeWhile Char.isDigit)) = .integer n ∧
      Text.decimalValue (s.takeWhile Char.isDigit) < UInt64.size ∧ r = skipDigits s ∧
      r.head? ≠ some '.' ∧ r.head? ≠ some 'e' ∧ r.head? ≠ some 'E' := by
  simp only [readMagnitude] at h
  split at h
  · split at h <;> cases h
  · cases h
  · split at h
    · exact absurd h not_integer_of_readFraction
    · exact absurd h not_integer_of_readExponent
    · exact absurd h not_integer_of_readExponent
    · rename_i hpoint hlower hupper
      split at h
      · rename_i hdropped
        obtain ⟨hn, rfl⟩ := Prod.mk.inj (Except.ok.inj h)
        obtain ⟨hvalue, hlt⟩ := absorb_eq_zero (Prod.ext rfl hdropped)
        rw [Text.decimalValue, ← hvalue]
        refine ⟨hn, hlt (by decide), rfl, ?_, ?_, ?_⟩
        all_goals
          intro hhead
          obtain ⟨t, ht⟩ := List.head?_eq_some_iff.1 hhead
          first | exact hpoint t ht | exact hlower t ht | exact hupper t ht
      · exact absurd h not_integer_of_finishDecimal

theorem digitChar_of_isDigit {c : Char} (h : c.isDigit = true) :
    (c.toNat - '0'.toNat) < 10 ∧ Nat.digitChar (c.toNat - '0'.toNat) = c := by
  have hall : ∀ n < 10, Nat.digitChar n = Char.ofNat (n + 48) := by decide
  have hzero : '0'.toNat = 48 := rfl
  obtain ⟨hlow, hhigh⟩ : 48 ≤ c.toNat ∧ c.toNat ≤ 57 := by
    simpa [Char.isDigit, UInt32.le_iff_toNat_le] using h
  refine ⟨by omega, ?_⟩
  rw [hall _ (by omega), hzero, Nat.sub_add_cancel hlow, Char.ofNat_toNat]

/-- Digits without a zero in front are the numeral of what they stand for. -/
theorem IsWhole.decimal_decimalValue {digits : List Char} (h : IsWhole digits) :
    Text.decimal (Text.decimalValue digits) = digits := by
  induction digits using List.reverseRecOn with
  | nil => exact absurd rfl h.1.1
  | append_singleton ds d ih =>
    obtain ⟨⟨-, hdigits⟩, hzero⟩ := h
    obtain ⟨hlt, hchar⟩ := digitChar_of_isDigit (hdigits d (by simp))
    have hvalue : Text.decimalValue (ds ++ [d]) =
        10 * Text.decimalValue ds + (d.toNat - '0'.toNat) := by
      rw [Text.decimalValue, Nat.ofDigitChars_append, Nat.ofDigitChars_cons]
      rfl
    by_cases hds : ds = []
    · subst hds
      have hsmall : Text.decimalValue ([] ++ [d]) = d.toNat - '0'.toNat := by
        rw [hvalue]
        exact Nat.zero_add _
      rw [hsmall, Text.decimal, Nat.toDigits_eq_if (by decide), if_pos hlt, hchar]
      rfl
    · -- The digits in front do not stand for zero, whose numeral begins with one.
      have hhead : ds.head? ≠ some '0' := by
        intro hhead
        have hall := hzero (by rw [List.head?_append, hhead]; rfl)
        have hlength := congrArg List.length hall
        rw [List.length_append] at hlength
        exact hds (List.eq_nil_of_length_eq_zero (by simpa using hlength))
      have hfront := ih ⟨⟨hds, fun c hc ↦ hdigits c (List.mem_append_left _ hc)⟩,
        fun h ↦ absurd h hhead⟩
      have hpos : Text.decimalValue ds ≠ 0 := by
        intro hvalue
        rw [hvalue] at hfront
        exact hhead (by rw [← hfront]; rfl)
      rw [hvalue, Text.decimal, Nat.toDigits_eq_if (by decide), if_neg (by omega),
        show (10 * Text.decimalValue ds + (d.toNat - '0'.toNat)) / 10 = Text.decimalValue ds by
          omega,
        show (10 * Text.decimalValue ds + (d.toNat - '0'.toNat)) % 10 = d.toNat - '0'.toNat by
          omega,
        hchar, ← Text.decimal, hfront]

theorem IsNumber.exists_cons {literal : List Char} (h : IsNumber literal) :
    ∃ c s, literal = c :: s ∧ beginsNumber c = true := by
  cases h with
  | parts hsign hwhole _ _ =>
    obtain ⟨d, ds, rfl, hd, -⟩ := hwhole.1.exists_cons
    rcases hsign with rfl | rfl
    · exact ⟨d, _, rfl, by simp [beginsNumber, hd]⟩
    · exact ⟨'-', _, rfl, rfl⟩

/-- What comes behind a number that is an integer is all that follows its digits. -/
theorem eq_nil_of_head? {fraction exponent r : List Char} (hfraction : IsFraction fraction)
    (hexponent : IsExponent exponent) (hpoint : (fraction ++ (exponent ++ r)).head? ≠ some '.')
    (hlower : (fraction ++ (exponent ++ r)).head? ≠ some 'e')
    (hupper : (fraction ++ (exponent ++ r)).head? ≠ some 'E') : fraction = [] ∧ exponent = [] := by
  rcases hfraction with rfl | ⟨digits, -, rfl⟩
  · rcases hexponent with rfl | ⟨letter, sign, digits, rfl | rfl, -, -, rfl⟩
    · exact ⟨rfl, rfl⟩
    · exact absurd rfl hlower
    · exact absurd rfl hupper
  · exact absurd rfl hpoint

/-- A natural number is read only from its numeral. -/
theorem IsNumber.eq_decimal_of_readNumber {literal r r' : List Char} (h : IsNumber literal)
    (hr : EndsNumber r) {n : Int} (hn : 0 ≤ n)
    (hread : readNumber (literal ++ r) = .ok (.integer n, r')) :
    literal = Text.decimal n.toNat ∧ n < (UInt64.size : Nat) ∧ r' = r := by
  cases h with
  | @parts sign whole fraction exponent hsign hwhole hfraction hexponent =>
    have hends := endsDigits_fraction hfraction hexponent hr
    have htake := takeWhile_digits_append hwhole.1.2 hends
    have hskip := skipDigits_append hwhole.1.2 hends
    rw [List.append_assoc, List.append_assoc, List.append_assoc] at hread
    rcases hsign with rfl | rfl
    · have hmagnitude : readMagnitude false (whole ++ (fraction ++ (exponent ++ r))) =
          .ok (.integer n, r') := by
        obtain ⟨d, ds, rfl, hd, -⟩ := hwhole.1.exists_cons
        rw [List.nil_append, List.cons_append] at hread
        unfold readNumber at hread
        split at hread
        case h_1 h => rw [(List.cons.inj h).1] at hd; cases hd
        case h_2 => exact hread
      obtain ⟨hvalue, hlt, rfl, hpoint, hlower, hupper⟩ := integer_of_readMagnitude hmagnitude
      rw [hskip] at hpoint hlower hupper ⊢
      rw [htake] at hvalue hlt
      obtain ⟨rfl, rfl⟩ := eq_nil_of_head? hfraction hexponent hpoint hlower hupper
      obtain rfl : (Text.decimalValue whole : Int) = n := by
        simpa [finishInteger] using hvalue
      rw [Int.toNat_natCast, hwhole.decimal_decimalValue]
      exact ⟨by simp, by omega, rfl⟩
    · -- Behind a minus stands a negative integer, or a zero that is no integer.
      obtain ⟨hvalue, -⟩ := integer_of_readMagnitude hread
      rw [finishInteger, if_pos rfl] at hvalue
      split at hvalue
      · cases hvalue
      · cases hvalue
        omega

end QueueJournal.Json
