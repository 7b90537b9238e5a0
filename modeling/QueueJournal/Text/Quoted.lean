import QueueJournal.Text.Numeral
import QueueJournal.Text.Unprintable

/-!
# Quoted texts

A text between double quotes as it is shown in messages. Quote and backslash are escaped, the four
controls with a letter of their own are written with it, and every other unprintable character is
named by its number: `\u{200b}`. A single quote stands for itself.
-/

namespace QueueJournal.Text

/-- A character as it stands inside a quoted text. -/
def escape (c : Char) : List Char :=
  if c = '"' then ['\\', '"']
  else if c = '\\' then ['\\', '\\']
  else if c = '\x00' then ['\\', '0']
  else if c = '\t' then ['\\', 't']
  else if c = '\r' then ['\\', 'r']
  else if c = '\n' then ['\\', 'n']
  else if isUnprintable c then ['\\', 'u', '\x7b'] ++ hexadecimal c.toNat ++ ['\x7d']
  else [c]

/-- The text between double quotes, with its characters escaped. -/
def quoted (s : List Char) : List Char :=
  '"' :: s.flatMap escape ++ ['"']

@[simp]
theorem quoted_nil : quoted [] = ['"', '"'] := rfl

end QueueJournal.Text
