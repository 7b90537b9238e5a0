import QueueJournal.Json.Skip
import QueueJournal.Json.Scalar
import QueueJournal.Proofs.Json.Literal

/-!
# The grammar of JSON texts

A `Form` is what a JSON text says, with numbers as they are spelled and with the members of an
object in their order, repeated keys and all. `Spells` is the grammar: which texts say it. Blanks
may stand around every token, strings may spell any character by an escape, and an escape that names
half of a surrogate pair stands next to one that names the other half.

Nothing here knows of the readers. What follows in the other modules is that they agree with it.
-/

namespace QueueJournal.Json

/-! ### Forms -/

/-- What a JSON text says. -/
inductive Form where
  /-- The word `null`. -/
  | null
  /-- A truth value. -/
  | bool (b : Bool)
  /-- A number, as it is spelled. -/
  | number (literal : List Char)
  /-- A string, as it reads without escapes. -/
  | string (s : List Char)
  /-- Elements in order. -/
  | array (elements : List Form)
  /-- Members in order. -/
  | object (members : List (List Char × Form))

/-! ### Blanks -/

/-- Only blanks. -/
def IsBlank (w : List Char) : Prop :=
  ∀ c ∈ w, isSpace c = true

/-! ### Numbers -/

/-- One digit or more. -/
def IsDigits (s : List Char) : Prop :=
  s ≠ [] ∧ ∀ c ∈ s, c.isDigit = true

/-- The digits in front of the point: no zero stands before others. -/
def IsWhole (s : List Char) : Prop :=
  IsDigits s ∧ (s.head? = some '0' → s = ['0'])

/-- A point and digits, or nothing. -/
def IsFraction (s : List Char) : Prop :=
  s = [] ∨ ∃ digits, IsDigits digits ∧ s = '.' :: digits

/-- A letter, a sign that may be missing, and digits; or nothing. -/
def IsExponent (s : List Char) : Prop :=
  s = [] ∨ ∃ letter sign digits, (letter = 'e' ∨ letter = 'E') ∧
    (sign = [] ∨ sign = ['+'] ∨ sign = ['-']) ∧ IsDigits digits ∧ s = letter :: (sign ++ digits)

/-- A number: a minus that may be missing, digits, a fraction and an exponent. -/
inductive IsNumber : List Char → Prop where
  /-- The four parts. -/
  | parts {sign whole fraction exponent : List Char} (hsign : sign = [] ∨ sign = ['-'])
    (hwhole : IsWhole whole) (hfraction : IsFraction fraction) (hexponent : IsExponent exponent) :
    IsNumber (sign ++ (whole ++ (fraction ++ exponent)))

/-! ### Strings -/

/-- Four hexadecimal digits and the number that they name. -/
def IsCodeUnit (digits : List Char) (n : Nat) : Prop :=
  digits.length = 4 ∧ hexValue? digits = some n

/-- How a character may be spelled in a string. -/
inductive SpellsChar (c : Char) : List Char → Prop where
  /-- By itself, unless it is a quote, a backslash or a control. -/
  | plain (hquote : c ≠ '"') (hbackslash : c ≠ '\\') (hcontrol : isControl c = false) :
    SpellsChar c [c]
  /-- By a letter behind a backslash. -/
  | short {letter : Char} (hletter : (letter, c) ∈ [('"', '"'), ('\\', '\\'), ('/', '/'),
      ('b', '\x08'), ('f', '\x0c'), ('n', '\n'), ('r', '\r'), ('t', '\t')]) :
    SpellsChar c ['\\', letter]
  /-- By its number, if that takes no more than sixteen bits. -/
  | unit {digits : List Char} {n : Nat} (hdigits : IsCodeUnit digits n)
    (hn : n < 0xd800 ∨ 0xdfff < n) (hc : c = Char.ofNat n) : SpellsChar c ('\\' :: 'u' :: digits)
  /-- By the two halves of a surrogate pair. -/
  | pair {digits digits' : List Char} {high low : Nat} (hdigits : IsCodeUnit digits high)
    (hhigh : 0xd800 ≤ high ∧ high ≤ 0xdbff) (hdigits' : IsCodeUnit digits' low)
    (hlow : 0xdc00 ≤ low ∧ low ≤ 0xdfff)
    (hc : c = Char.ofNat (0x10000 + (high - 0xd800) * 0x400 + (low - 0xdc00))) :
    SpellsChar c ('\\' :: 'u' :: (digits ++ '\\' :: 'u' :: digits'))

/-- How the characters of a string may be spelled between its quotes. -/
inductive SpellsChars : List Char → List Char → Prop where
  /-- There are none. -/
  | nil : SpellsChars [] []
  /-- One is spelled, and then the others. -/
  | cons {c : Char} {s t ts : List Char} (hc : SpellsChar c t) (hs : SpellsChars s ts) :
    SpellsChars (c :: s) (t ++ ts)

/-- Characters that need no escape spell themselves. -/
theorem spellsChars_self {s : List Char} (h : (s.all fun c ↦ (escape? c).isNone) = true) :
    SpellsChars s s := by
  induction s with
  | nil => exact .nil
  | cons c s ih =>
    obtain ⟨hc, hs⟩ := Bool.and_eq_true_iff.1 (List.all_cons.symm.trans h)
    obtain ⟨hquote, hbackslash, hcontrol⟩ :=
      plain_of_escape?_eq_none (Option.isNone_iff_eq_none.1 hc)
    exact .cons (.plain hquote hbackslash hcontrol) (ih hs)

/-! ### Values -/

/-- An element: a form, its text, and the blanks around that. -/
structure Cell where
  /-- The blanks in front. -/
  front : List Char
  /-- What the text says. -/
  form : Form
  /-- The text. -/
  text : List Char
  /-- The blanks behind. -/
  back : List Char

namespace Cell

/-- The text of an element with its blanks. -/
def whole (cell : Cell) : List Char :=
  cell.front ++ (cell.text ++ cell.back)

/-- What stands around the text is blank. -/
def IsPadded (cell : Cell) : Prop :=
  IsBlank cell.front ∧ IsBlank cell.back

end Cell

/-- A member: its key with the blanks around it, and its value. -/
structure KeyedCell extends Cell where
  /-- The blanks in front of the key. -/
  keyFront : List Char
  /-- What the key says. -/
  key : List Char
  /-- The text of the key between its quotes. -/
  keyText : List Char
  /-- The blanks behind the key. -/
  keyBack : List Char

namespace KeyedCell

/-- The text of a key behind the blanks in front of it, up to the colon. -/
def quoted (cell : KeyedCell) : List Char :=
  '"' :: (cell.keyText ++ '"' :: cell.keyBack)

/-- The text of a member with its blanks. -/
def line (cell : KeyedCell) : List Char :=
  cell.keyFront ++ (cell.quoted ++ ':' :: cell.whole)

theorem line_append (cell : KeyedCell) (r : List Char) : cell.line ++ r = cell.keyFront ++
    '"' :: (cell.keyText ++ '"' :: (cell.keyBack ++ ':' :: (cell.whole ++ r))) := by
  simp [line, quoted]

/-- The key is spelled, and what stands around it and the text is blank. -/
structure IsKeyed (cell : KeyedCell) : Prop where
  /-- The blanks around the value. -/
  padded : cell.IsPadded
  /-- The blanks in front of the key. -/
  keyFront : IsBlank cell.keyFront
  /-- The key. -/
  key : SpellsChars cell.key cell.keyText
  /-- The blanks behind the key. -/
  keyBack : IsBlank cell.keyBack

/-- A member without blanks, whose key needs no escape. -/
def plain (key : String) (form : Form) (text : String) : KeyedCell where
  front := []
  form := form
  text := text.toList
  back := []
  keyFront := []
  key := key.toList
  keyText := key.toList
  keyBack := []

theorem isKeyed_plain {key : String} (form : Form) (text : String)
    (h : (key.toList.all fun c ↦ (escape? c).isNone) = true) : (plain key form text).IsKeyed where
  padded := ⟨List.forall_mem_nil _, List.forall_mem_nil _⟩
  keyFront := List.forall_mem_nil _
  key := spellsChars_self h
  keyBack := List.forall_mem_nil _

/-- What the member says. -/
def member (cell : KeyedCell) : List Char × Form :=
  (cell.key, cell.form)

end KeyedCell

/-- The text says what the form is. -/
inductive Spells : Form → List Char → Prop where
  /-- A word. -/
  | null : Spells .null "null".toList
  /-- A word. -/
  | bool (b : Bool) : Spells (.bool b) (if b then "true" else "false").toList
  /-- A number. -/
  | number {literal : List Char} (h : IsNumber literal) : Spells (.number literal) literal
  /-- A string between quotes. -/
  | string {s t : List Char} (h : SpellsChars s t) : Spells (.string s) ('"' :: (t ++ ['"']))
  /-- No elements between brackets. -/
  | emptyArray {w : List Char} (hw : IsBlank w) : Spells (.array []) ('[' :: (w ++ [']']))
  /-- Elements between brackets, with a comma in front of all but the first. -/
  | array {first : Cell} {others : List Cell} (hpadded : ∀ cell ∈ first :: others, cell.IsPadded)
    (hcells : ∀ cell ∈ first :: others, Spells cell.form cell.text) :
    Spells (.array ((first :: others).map Cell.form))
      ('[' :: (first.whole ++ ((others.flatMap fun cell ↦ ',' :: cell.whole) ++ [']'])))
  /-- No members between braces. -/
  | emptyObject {w : List Char} (hw : IsBlank w) : Spells (.object []) ('\x7b' :: (w ++ ['\x7d']))
  /-- Members between braces, with a comma in front of all but the first. -/
  | object {first : KeyedCell} {others : List KeyedCell}
    (hkeyed : ∀ cell ∈ first :: others, cell.IsKeyed)
    (hcells : ∀ cell ∈ first :: others, Spells cell.form cell.text) :
    Spells (.object ((first :: others).map KeyedCell.member))
      ('\x7b' :: (first.line ++ ((others.flatMap fun cell ↦ ',' :: cell.line) ++ ['\x7d'])))

/-- A digit is a number. -/
theorem spells_digit {c : Char} (hc : c.isDigit = true) : Spells (.number [c]) [c] := by
  have hwhole : IsWhole [c] :=
    ⟨⟨List.cons_ne_nil _ _, List.forall_mem_singleton.2 hc⟩, fun h ↦ by rw [Option.some.inj h]⟩
  exact .number (.parts (.inl rfl) hwhole (.inl rfl) (.inl rfl))

/-- The text says what the form is, with blanks around it. -/
inductive Document (form : Form) : List Char → Prop where
  /-- The blanks, the value and the blanks. -/
  | value {front text back : List Char} (hfront : IsBlank front) (htext : Spells form text)
    (hback : IsBlank back) : Document form (front ++ (text ++ back))

end QueueJournal.Json
