import Mathlib.Data.List.TakeWhile
import Mathlib.Data.Nat.Digits.Defs
import QueueJournal.Settings

/-!
# Which values are counts

A value that is looked up is a count if what is left of it without the blanks at both ends is a
decimal numeral of at most sixty-four bits, with a plus in front or without (`IsCount`). Trimming is
described by what it takes off (`Text.trim_eq_iff`) and a numeral by its digits and their positions
(`Text.decimalValue_eq_ofDigits`), so that the grammar does not mention how values are read.

A value is read as a count exactly if it is one, and as the number that it spells; otherwise the
failure tells the key and the value as it is, blanks and all (`readsCount`).
-/

namespace QueueJournal

/-! ### Trimming -/

namespace Text

variable {s t : List Char}

theorem dropWhile_eq_iff {p : Char → Bool} : s.dropWhile p = t ↔
    ∃ front, s = front ++ t ∧ (∀ c ∈ front, p c = true) ∧ ∀ c ∈ t.head?, p c = false := by
  constructor
  · rintro rfl
    refine ⟨s.takeWhile p, List.takeWhile_append_dropWhile.symm,
      fun c ↦ List.mem_takeWhile_imp, fun c hc ↦ ?_⟩
    have hhead := List.head?_dropWhile_not p s
    rw [Option.mem_def.1 hc] at hhead
    exact hhead
  · rintro ⟨front, rfl, hfront, hhead⟩
    rw [List.dropWhile_append_of_pos hfront]
    cases t with
    | nil => rfl
    | cons c t => exact List.dropWhile_cons_of_neg (by simp [hhead c rfl])

theorem trimEnd_eq_iff : trimEnd s = t ↔
    ∃ back, s = t ++ back ∧ (∀ c ∈ back, isBlank c = true) ∧
      ∀ c ∈ t.getLast?, isBlank c = false := by
  rw [trimEnd, List.reverse_eq_iff, dropWhile_eq_iff, List.head?_reverse]
  constructor
  · rintro ⟨front, hs, hfront, hlast⟩
    exact ⟨front.reverse, by simpa using congrArg List.reverse hs, by simpa using hfront, hlast⟩
  · rintro ⟨back, rfl, hback, hlast⟩
    exact ⟨back.reverse, List.reverse_append, by simpa using hback, hlast⟩

/-- What is left of a text without the blanks at its ends. -/
structure IsTrimmed (s core : List Char) : Prop where
  /-- Only blanks are taken off. -/
  blanks : ∃ front back, s = front ++ core ++ back ∧ (∀ c ∈ front, isBlank c = true) ∧
    ∀ c ∈ back, isBlank c = true
  /-- No blank is left in front. -/
  head : ∀ c ∈ core.head?, isBlank c = false
  /-- No blank is left behind. -/
  last : ∀ c ∈ core.getLast?, isBlank c = false

/-- **Trimming takes the blanks off both ends, and nothing else.** -/
theorem trim_eq_iff {core : List Char} : trim s = core ↔ IsTrimmed s core := by
  rw [trim, trimEnd_eq_iff]
  constructor
  · rintro ⟨back, hs, hback, hlast⟩
    obtain ⟨front, hfront, hblank, hhead⟩ := dropWhile_eq_iff.1 hs
    refine ⟨⟨front, back, by rw [hfront, List.append_assoc], hblank, hback⟩, fun c hc ↦ ?_, hlast⟩
    exact hhead c (by rw [List.head?_append, hc]; rfl)
  · rintro ⟨⟨front, back, rfl, hfront, hback⟩, hhead, hlast⟩
    cases core with
    | nil =>
      -- All is blank, and nothing is left for the other end.
      refine ⟨[], dropWhile_eq_iff.2 ⟨front ++ back, by simp, ?_, hhead⟩, by simp, hlast⟩
      exact List.forall_mem_append.2 ⟨hfront, hback⟩
    | cons c core =>
      exact ⟨back, dropWhile_eq_iff.2 ⟨front, List.append_assoc .., hfront, hhead⟩, hback, hlast⟩

theorem isBlank_eq_false_of_isDigit {c : Char} (h : c.isDigit = true) : isBlank c = false := by
  simp only [Char.isDigit, Bool.and_eq_true, decide_eq_true_eq] at h
  have hlow : 48 ≤ c.toNat := h.1
  have hhigh : c.toNat ≤ 57 := h.2
  simp only [isBlank, Bool.or_eq_false_iff, Bool.and_eq_false_iff, decide_eq_false_iff_not,
    beq_eq_false_iff_ne]
  omega

/-- Digits stand for the number that has them as its digits in base ten. -/
theorem decimalValue_eq_ofDigits (digits : List Char) : decimalValue digits =
    Nat.ofDigits 10 (digits.map fun c ↦ c.toNat - '0'.toNat).reverse := by
  rw [decimalValue, Nat.ofDigitChars_eq_foldl, Nat.ofDigits_eq_foldr, List.foldr_reverse,
    List.foldl_map]
  simp [Nat.add_comm]

end Text

namespace Settings

/-- What may stand for a count: a plus that may be missing, and one digit or more, zeros in front
among them, that make a number of at most sixty-four bits. -/
def IsCount (s : List Char) (n : Nat) : Prop :=
  ∃ plus digits, s = plus ++ digits ∧ (plus = [] ∨ plus = ['+']) ∧ digits ≠ [] ∧
    (∀ c ∈ digits, c.isDigit = true) ∧
    n = Nat.ofDigits 10 (digits.map fun c ↦ c.toNat - '0'.toNat).reverse ∧ n < 2 ^ 64

/-- A value that is a count, with blanks around it. -/
def MakesCount (value : String) (n : Nat) : Prop :=
  ∃ core, Text.IsTrimmed value.toList core ∧ IsCount core n

theorem dropPlus_append {plus digits : List Char} (hplus : plus = [] ∨ plus = ['+'])
    (hdigits : ∀ c ∈ digits, c.isDigit = true) : dropPlus (plus ++ digits) = digits := by
  rcases hplus with rfl | rfl
  · rw [List.nil_append]
    fun_cases dropPlus digits with
    | case1 s => exact absurd (hdigits '+' List.mem_cons_self) (by decide)
    | case2 => rfl
  · rfl

theorem exists_eq_append_dropPlus (s : List Char) :
    ∃ plus, s = plus ++ dropPlus s ∧ (plus = [] ∨ plus = ['+']) := by
  fun_cases dropPlus s with
  | case1 s => exact ⟨['+'], rfl, .inr rfl⟩
  | case2 => exact ⟨[], rfl, .inl rfl⟩

/-- **A text is read as a count exactly if it is one without its blanks.** -/
theorem parseCount?_eq_some_iff {text : List Char} {n : Nat} :
    parseCount? text = some n ↔ IsCount (Text.trim text) n := by
  simp only [parseCount?]
  constructor
  · intro h
    obtain ⟨plus, htrim, hplus⟩ := exists_eq_append_dropPlus (Text.trim text)
    split at h
    case isTrue => cases h
    case isFalse hdigits =>
      split at h
      case isFalse => cases h
      case isTrue hlt =>
        obtain rfl := Option.some.inj h
        simp only [Bool.or_eq_true, List.isEmpty_iff, Bool.not_eq_true', not_or, Bool.not_eq_false,
          List.all_eq_true] at hdigits
        exact ⟨plus, _, htrim, hplus, hdigits.1, hdigits.2, Text.decimalValue_eq_ofDigits _, hlt⟩
  · rintro ⟨plus, digits, htrim, hplus, hne, hdigits, rfl, hlt⟩
    rw [htrim, dropPlus_append hplus hdigits, Text.decimalValue_eq_ofDigits]
    have hall : (digits.isEmpty || !digits.all Char.isDigit) = false := by
      simpa [hne] using hdigits
    simp only [hall, Bool.false_eq_true, if_false]
    exact if_pos hlt

theorem makesCount_iff {value : String} {n : Nat} :
    MakesCount value n ↔ parseCount? value.toList = some n := by
  rw [parseCount?_eq_some_iff]
  constructor
  · rintro ⟨core, htrimmed, hcount⟩
    rwa [Text.trim_eq_iff.2 htrimmed]
  · exact fun h ↦ ⟨_, Text.trim_eq_iff.1 rfl, h⟩

/-- A decimal numeral of at most sixty-four bits makes its number, whatever blanks are around it. -/
theorem makesCount_decimal {value : String} {front back : List Char} {n : Nat} (hlt : n < 2 ^ 64)
    (hfront : ∀ c ∈ front, Text.isBlank c = true) (hback : ∀ c ∈ back, Text.isBlank c = true)
    (hvalue : value.toList = front ++ Text.decimal n ++ back) : MakesCount value n := by
  have hdigits : ∀ c ∈ Text.decimal n, c.isDigit = true := fun c ↦ Text.isDigit_of_mem_decimal
  have hblank : ∀ c ∈ Text.decimal n, Text.isBlank c = false := fun c hc ↦
    Text.isBlank_eq_false_of_isDigit (hdigits c hc)
  refine ⟨Text.decimal n, ⟨⟨front, back, hvalue, hfront, hback⟩, fun c hc ↦ ?_, fun c hc ↦ ?_⟩,
    [], Text.decimal n, rfl, .inl rfl, Text.decimal_ne_nil n, hdigits, ?_, hlt⟩
  · exact hblank c (List.mem_of_head? hc)
  · exact hblank c (List.mem_of_getLast? hc)
  · rw [← Text.decimalValue_eq_ofDigits, Text.decimalValue_decimal]

/-! ### Values that are looked up -/

variable {lookup : String → Option String} {key value : String} {default n : Nat} {e : Failure}

theorem count_of_none (h : lookup key = none) : count lookup key default = .ok default := by
  rw [count, h]

theorem count_eq_ok_iff (h : lookup key = some value) :
    count lookup key default = .ok n ↔ MakesCount value n := by
  simp only [count, h, makesCount_iff]
  cases parseCount? value.toList <;> simp

theorem count_eq_error_iff (h : lookup key = some value) :
    count lookup key default = .error e ↔
      e = .setting key value ∧ ¬ ∃ n, MakesCount value n := by
  simp only [count, h, makesCount_iff]
  cases parseCount? value.toList <;> simp [eq_comm]

/-- **A value is read as a count exactly if it is one**, and as the number that it spells. Otherwise
the failure tells the key and the value as it is. In particular the numeral of a number of at most
sixty-four bits is read as that number, whatever blanks are around it. -/
theorem readsCount (h : lookup key = some value) :
    (∀ n, count lookup key default = .ok n ↔ MakesCount value n) ∧
      (∀ e, count lookup key default = .error e ↔
        e = .setting key value ∧ ¬ ∃ n, MakesCount value n) ∧
      ∀ n front back, n < 2 ^ 64 → (∀ c ∈ front, Text.isBlank c = true) →
        (∀ c ∈ back, Text.isBlank c = true) → value.toList = front ++ Text.decimal n ++ back →
          count lookup key default = .ok n := by
  refine ⟨fun n ↦ count_eq_ok_iff h, fun e ↦ count_eq_error_iff h, ?_⟩
  intro n front back hlt hfront hback hvalue
  exact (count_eq_ok_iff h).2 (makesCount_decimal hlt hfront hback hvalue)

/-- The greatest count, with a plus, zeros and blanks of three kinds, the least number that is too
great for one, and a numeral between blanks. -/
theorem readsCount_limit :
    MakesCount "\u00a0 +00018446744073709551615\u3000" 18446744073709551615 ∧
      (¬ ∃ n, MakesCount " 18446744073709551616" n) ∧
      count (fun _ ↦ some " 18446744073709551616") itemsKey 3 =
        .error (.setting "QUEUE_DEMO_ITEMS" " 18446744073709551616") ∧
      count (fun _ ↦ some " 70\t\n") itemsKey 3 = .ok 70 := by
  have hcount : count (fun _ ↦ some "\u00a0 +00018446744073709551615\u3000") itemsKey 3 =
      .ok 18446744073709551615 := by decide
  have hgreat : count (fun _ ↦ some " 18446744073709551616") itemsKey 3 =
      .error (.setting "QUEUE_DEMO_ITEMS" " 18446744073709551616") := by decide
  have hreads := @readsCount (fun _ ↦ some "\u00a0 +00018446744073709551615\u3000") itemsKey _ 3 rfl
  have hrefuses := @readsCount (fun _ ↦ some " 18446744073709551616") itemsKey _ 3 rfl
  have hspaced := @readsCount (fun _ ↦ some " 70\t\n") itemsKey _ 3 rfl
  refine ⟨(hreads.1 _).1 hcount, ((hrefuses.2.1 _).1 hgreat).2, hgreat, ?_⟩
  exact hspaced.2.2 70 [' '] ['\t', '\n'] (by decide) (List.all_eq_true.1 (by decide))
    (List.all_eq_true.1 (by decide)) (by decide)

end Settings

end QueueJournal
