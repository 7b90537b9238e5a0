import Mathlib.Data.Nat.Basic
import Mathlib.Tactic.SplitIfs
import QueueJournal.Json.StringLiteral
import QueueJournal.Text.Quoted

/-!
# Quoted texts can be read

A quoted text ends at its first quote that is not escaped, so it can be told from whatever follows
it (`quoted_append_inj`): two texts that begin with quoted texts and are equal begin with the same
one. A character is read back from its escaped form (`unescape?_escape`), where the number in
`\u{200b}` ends at the brace since no hexadecimal digit is one.

A quoted text shows printable characters only (`isUnprintable_eq_false_of_mem_quoted`). Controls are
unprintable (`isUnprintable_of_isControl`), so it is a single line.
-/

namespace QueueJournal.Text

/-! ### Printable characters -/

/-- The controls: the characters of the category `Cc`. -/
def isControl (c : Char) : Bool :=
  c.toNat < 0x20 || (0x7f ≤ c.toNat && c.toNat ≤ 0x9f)

theorem isUnprintable_of_isControl {c : Char} (h : isControl c = true) :
    isUnprintable c = true := by
  simp only [isControl, Bool.or_eq_true, Bool.and_eq_true, decide_eq_true_eq] at h
  rcases h with hlow | ⟨hdelete, hhigh⟩
  · exact isUnprintable_of_lt_space hlow
  · exact isUnprintable_of_delete_le hdelete hhigh

/-- The characters of ASCII that can be printed: those from the space to the tilde. -/
def isGraphic (c : Char) : Bool :=
  0x20 ≤ c.toNat && c.toNat ≤ 0x7e

theorem isUnprintable_eq_false_of_isGraphic {c : Char} (h : isGraphic c = true) :
    isUnprintable c = false := by
  simp only [isGraphic, Bool.and_eq_true, decide_eq_true_eq] at h
  have houtside : ∀ range ∈ unprintableRanges, range.2 < 0x20 ∨ 0x7e < range.1 := by
    decide +kernel
  rw [isUnprintable, List.any_eq_false]
  rintro ⟨low, high⟩ hmem hin
  rw [Bool.and_eq_true, decide_eq_true_eq, decide_eq_true_eq] at hin
  have := houtside _ hmem
  omega

theorem isUnprintable_eq_false_of_all {s : List Char} {c : Char} (h : s.all isGraphic = true)
    (hc : c ∈ s) : isUnprintable c = false :=
  isUnprintable_eq_false_of_isGraphic (List.all_eq_true.1 h c hc)

/-! ### Hexadecimal numerals -/

/-- A numeral is made of the digits from zero to f. -/
theorem exists_digit_of_mem_hexadecimal {n : Nat} {c : Char} (h : c ∈ hexadecimal n) :
    ∃ digit < 16, c = Nat.digitChar digit := by
  rw [hexadecimal] at h
  induction n using Nat.strong_induction_on with
  | _ n ih =>
    rw [Nat.toDigits_eq_if (by decide)] at h
    split at h
    case isTrue hlt => exact ⟨n, hlt, List.mem_singleton.1 h⟩
    case isFalse hge =>
      rcases List.mem_append.1 h with hleft | hlast
      · exact ih (n / 16) (by omega) hleft
      · exact ⟨n % 16, Nat.mod_lt n (by decide), List.mem_singleton.1 hlast⟩

/-- A hexadecimal numeral stands for its number. -/
theorem hexValue?_hexadecimal (n : Nat) : Json.hexValue? (hexadecimal n) = some n := by
  have hdigit : ∀ d < 16, hexDigit? (Nat.digitChar d) = some d := by decide
  rw [hexadecimal, Json.hexValue?]
  induction n using Nat.strong_induction_on with
  | _ n ih =>
    rw [Nat.toDigits_eq_if (by decide)]
    split
    case isTrue hlt => simp [hdigit n hlt]
    case isFalse hge =>
      rw [List.foldlM_append, ih (n / 16) (by omega)]
      simp [hdigit (n % 16) (Nat.mod_lt n (by decide)), Nat.div_add_mod]

/-! ### Reading an escaped character -/

/-- The character that a letter behind a backslash stands for. -/
def unescapeLetter? (letter : Char) : Option Char :=
  if letter = '"' then some '"'
  else if letter = '\\' then some '\\'
  else if letter = '0' then some '\x00'
  else if letter = 't' then some '\t'
  else if letter = 'r' then some '\r'
  else if letter = 'n' then some '\n'
  else none

/-- Reads what follows a backslash: a letter, or a number between braces. -/
def unescapeBehind? : List Char → Option (Char × List Char)
  | 'u' :: '\x7b' :: s =>
    (Json.hexValue? (s.takeWhile (· != '\x7d'))).map fun n ↦
      (Char.ofNat n, (s.dropWhile (· != '\x7d')).drop 1)
  | letter :: s => (unescapeLetter? letter).map (·, s)
  | [] => none

/-- Reads a character inside a quoted text and leaves what follows it. A quote ends the text. -/
def unescape? : List Char → Option (Char × List Char)
  | [] => none
  | c :: s =>
    if c = '"' then none
    else if c = '\\' then unescapeBehind? s
    else some (c, s)

/-- The ways in which a character is escaped. -/
inductive Escapes : Char → List Char → Prop where
  /-- A letter behind a backslash. -/
  | letter {letter c : Char} (reads : unescapeLetter? letter = some c)
    (graphic : isGraphic letter = true) : Escapes c ['\\', letter]
  /-- The number of the character between braces. -/
  | number (c : Char) : Escapes c (['\\', 'u', '\x7b'] ++ hexadecimal c.toNat ++ ['\x7d'])
  /-- A printable character stands for itself, unless it has a meaning in quoted texts. -/
  | itself {c : Char} (hquote : c ≠ '"') (hbackslash : c ≠ '\\')
    (printable : isUnprintable c = false) : Escapes c [c]

theorem escapes_escape (c : Char) : Escapes c (escape c) := by
  rw [escape]
  split_ifs with hquote hbackslash hnull htab hreturn hlineFeed hunprintable
  · exact .letter (by rw [hquote]; rfl) rfl
  · exact .letter (by rw [hbackslash]; rfl) rfl
  · exact .letter (by rw [hnull]; rfl) rfl
  · exact .letter (by rw [htab]; rfl) rfl
  · exact .letter (by rw [hreturn]; rfl) rfl
  · exact .letter (by rw [hlineFeed]; rfl) rfl
  · exact .number c
  · exact .itself hquote hbackslash (Bool.eq_false_iff.2 hunprintable)

theorem unescapeBehind?_letter {letter c : Char} (h : unescapeLetter? letter = some c)
    (s : List Char) : unescapeBehind? (letter :: s) = some (c, s) := by
  have hu : letter ≠ 'u' := fun heq ↦ by simp [heq, unescapeLetter?] at h
  rw [unescapeBehind?, h, Option.map_some]
  exact fun _ heq ↦ absurd heq hu

/-- A number between braces is read to the closing brace. -/
theorem unescapeBehind?_number (c : Char) (s : List Char) :
    unescapeBehind? ('u' :: '\x7b' :: (hexadecimal c.toNat ++ '\x7d' :: s)) = some (c, s) := by
  have hbrace : ∀ digit < 16, (Nat.digitChar digit != '\x7d') = true := by decide
  have hdigits : ∀ d ∈ hexadecimal c.toNat, (d != '\x7d') = true := fun d hd ↦ by
    obtain ⟨digit, hlt, rfl⟩ := exists_digit_of_mem_hexadecimal hd
    exact hbrace digit hlt
  rw [unescapeBehind?, List.takeWhile_append_of_pos hdigits, List.dropWhile_append_of_pos hdigits]
  simp [hexValue?_hexadecimal]

/-- **A character is read back from its escaped form**, whatever follows. -/
theorem unescape?_escape (c : Char) (s : List Char) : unescape? (escape c ++ s) = some (c, s) := by
  have hescapes := escapes_escape c
  generalize escape c = shown at hescapes
  cases hescapes with
  | letter reads => exact unescapeBehind?_letter reads s
  | number =>
    rw [List.append_assoc]
    exact unescapeBehind?_number c s
  | itself hquote hbackslash => simp [unescape?, hquote, hbackslash]

/-! ### Quoted texts -/

theorem inside_append_inj {s t r r' : List Char}
    (h : s.flatMap escape ++ '"' :: r = t.flatMap escape ++ '"' :: r') : s = t ∧ r = r' := by
  induction s generalizing t with
  | nil =>
    cases t with
    | nil => exact ⟨rfl, (List.cons.inj h).2⟩
    | cons d t =>
      have hread := congrArg unescape? h
      rw [List.flatMap_cons, List.append_assoc, unescape?_escape] at hread
      cases hread
  | cons c s ih =>
    have hread := congrArg unescape? h
    rw [List.flatMap_cons, List.append_assoc, unescape?_escape] at hread
    cases t with
    | nil => cases hread
    | cons d t =>
      rw [List.flatMap_cons, List.append_assoc, unescape?_escape] at hread
      obtain ⟨rfl, hrest⟩ := Prod.mk.inj (Option.some.inj hread)
      obtain ⟨rfl, hr⟩ := ih hrest
      exact ⟨rfl, hr⟩

/-- **A quoted text can be told from what follows it.** -/
theorem quoted_append_inj {s t r r' : List Char} (h : quoted s ++ r = quoted t ++ r') :
    s = t ∧ r = r' := by
  rw [quoted, quoted, List.append_assoc, List.append_assoc] at h
  exact inside_append_inj (List.cons.inj h).2

/-- A character is escaped by characters that can be printed. -/
theorem isUnprintable_eq_false_of_mem_escape {c d : Char} (h : d ∈ escape c) :
    isUnprintable d = false := by
  have hdigit : ∀ digit < 16, isGraphic (Nat.digitChar digit) = true := by decide
  have hescapes := escapes_escape c
  generalize escape c = shown at h hescapes
  cases hescapes with
  | letter _ graphic =>
    rw [List.mem_cons, List.mem_singleton] at h
    rcases h with rfl | rfl
    · exact isUnprintable_eq_false_of_isGraphic rfl
    · exact isUnprintable_eq_false_of_isGraphic graphic
  | number =>
    rw [List.mem_append, List.mem_append] at h
    rcases h with (hfront | hnumber) | hback
    · exact isUnprintable_eq_false_of_all (by decide) hfront
    · obtain ⟨digit, hlt, rfl⟩ := exists_digit_of_mem_hexadecimal hnumber
      exact isUnprintable_eq_false_of_isGraphic (hdigit digit hlt)
    · exact isUnprintable_eq_false_of_all (by decide) hback
  | itself _ _ printable => rwa [List.mem_singleton.1 h]

/-- **A quoted text shows printable characters only.** -/
theorem isUnprintable_eq_false_of_mem_quoted {s : List Char} {d : Char} (h : d ∈ quoted s) :
    isUnprintable d = false := by
  rw [quoted, List.mem_append, List.mem_cons, List.mem_flatMap] at h
  rcases h with (rfl | ⟨c, -, hd⟩) | hback
  · exact isUnprintable_eq_false_of_isGraphic rfl
  · exact isUnprintable_eq_false_of_mem_escape hd
  · exact isUnprintable_eq_false_of_all (by decide) hback

end QueueJournal.Text
