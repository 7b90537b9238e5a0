/-!
# Blank characters

The characters with the Unicode property `White_Space`, and what is left of a text once the blanks
at both ends are taken off. Every text that the library trims is trimmed by this rule: counts in the
settings, the journal's path and the lines of a journal file.

Core's own class of white space knows ASCII only, so it does not serve here.
-/

namespace QueueJournal.Text

/-- The characters with the property `White_Space`. -/
def isBlank (c : Char) : Bool :=
  let n := c.toNat
  (0x9 ≤ n && n ≤ 0xd) || n == 0x20 || n == 0x85 || n == 0xa0 || n == 0x1680 ||
    (0x2000 ≤ n && n ≤ 0x200a) || n == 0x2028 || n == 0x2029 || n == 0x202f || n == 0x205f ||
    n == 0x3000

/-- The text without the blanks that end it. -/
def trimEnd (s : List Char) : List Char :=
  (s.reverse.dropWhile isBlank).reverse

/-- The text without the blanks that begin or end it. -/
def trim (s : List Char) : List Char :=
  trimEnd (s.dropWhile isBlank)

/-- Whether nothing is left of the text once it is trimmed. -/
def isAllBlank (s : List Char) : Bool :=
  (trim s).isEmpty

theorem isEmpty_dropWhile (p : Char → Bool) (s : List Char) :
    (s.dropWhile p).isEmpty = s.all p := by
  induction s with
  | nil => rfl
  | cons c s ih => cases hc : p c <;> simp [hc, ih]

theorem all_dropWhile (p : Char → Bool) (s : List Char) : (s.dropWhile p).all p = s.all p := by
  induction s with
  | nil => rfl
  | cons c s ih => cases hc : p c <;> simp [hc, ih]

/-- Nothing is left of a text exactly if each of its characters is blank. -/
theorem isAllBlank_eq_all (s : List Char) : isAllBlank s = s.all isBlank := by
  rw [isAllBlank, trim, trimEnd, List.isEmpty_reverse, isEmpty_dropWhile, List.all_reverse,
    all_dropWhile]

end QueueJournal.Text
