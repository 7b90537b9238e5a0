import QueueJournal.Text.Numeral

/-!
# Records shown as text

A value with named parts is shown by its name and its parts, on one line or spread over lines with
four blanks per level and a comma behind every part.
-/

namespace QueueJournal.Text

/-- A value to be shown. -/
inductive Record where
  /-- A value with a text of its own. -/
  | value (text : List Char)
  /-- A value with a name and named parts. -/
  | record (name : List Char) (parts : List (List Char × Record))

namespace Record

/-- A number as a record. -/
def number (n : Nat) : Record := .value (decimal n)

/-- A truth value as a record. -/
def bool (b : Bool) : Record := .value (if b then "true" else "false").toList

/-- The blanks in front of a line at a level. -/
def indentation (level : Nat) : List Char :=
  List.replicate (4 * level) ' '

mutual

/-- The record on one line. -/
def compact : Record → List Char
  | .value text => text
  | .record name parts => name ++ " \x7b ".toList ++ compactParts true parts ++ " \x7d".toList

/-- The parts of a record on one line, with commas between them. -/
def compactParts (first : Bool) : List (List Char × Record) → List Char
  | [] => []
  | (name, part) :: parts =>
    (if first then [] else ", ".toList) ++ name ++ ": ".toList ++ compact part ++
      compactParts false parts

end

mutual

/-- The record spread over lines; the first line is not indented. -/
def spread (level : Nat) : Record → List Char
  | .value text => text
  | .record name parts =>
    name ++ " \x7b\n".toList ++ spreadParts (level + 1) parts ++ indentation level ++ ['\x7d']

/-- The parts of a record, each beginning a line. -/
def spreadParts (level : Nat) : List (List Char × Record) → List Char
  | [] => []
  | (name, part) :: parts =>
    indentation level ++ name ++ ": ".toList ++ spread level part ++ ",\n".toList ++
      spreadParts level parts

end

/-- The record as text, spread over lines or not. -/
def render (pretty : Bool) (r : Record) : List Char :=
  if pretty then r.spread 0 else r.compact

end Record

end QueueJournal.Text
