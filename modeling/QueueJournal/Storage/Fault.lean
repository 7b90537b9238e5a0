import QueueJournal.Text.Numeral
import QueueJournal.Text.Quoted

/-!
# Faults of the storage

Why a file cannot be opened, read or written. Most faults are numbered by the system; the others are
found before the system is asked, or in what it gave.
-/

namespace QueueJournal.Storage

/-- Why a file cannot be opened, read or written. -/
inductive Fault where
  /-- There is nothing of that name. -/
  | notFound
  /-- Something other than a directory stands inside a path. -/
  | notDirectory
  /-- A directory is opened as a file. -/
  | isDirectory
  /-- The device is full. -/
  | noSpace
  /-- A name or path is too long. -/
  | nameTooLong
  /-- A path holds a NUL character. -/
  | nulInPath
  /-- The content is not UTF-8. -/
  | notText
deriving DecidableEq, Repr

namespace Fault

/-- What the system calls the fault: its number, the kind it belongs to and its description. -/
def system? : Fault → Option (Nat × String × String)
  | notFound => some (2, "NotFound", "No such file or directory")
  | notDirectory => some (20, "NotADirectory", "Not a directory")
  | isDirectory => some (21, "IsADirectory", "Is a directory")
  | noSpace => some (28, "StorageFull", "No space left on device")
  | nameTooLong => some (36, "InvalidFilename", "File name too long")
  | nulInPath | notText => none

/-- The kind and description of a fault that the system does not number. -/
def own : Fault → String × String
  | nulInPath => ("InvalidInput", "file name contained an unexpected NUL byte")
  | _ => ("InvalidData", "stream did not contain valid UTF-8")

/-- The wording of a fault. -/
def message (f : Fault) : List Char :=
  match f.system? with
  | some (code, _, description) =>
    description.toList ++ " (os error ".toList ++ Text.decimal code ++ [')']
  | none => f.own.2.toList

/-- The fault with all its parts named. -/
def diagnostic (f : Fault) : List Char :=
  match f.system? with
  | some (code, kind, description) =>
    "Os \x7b code: ".toList ++ Text.decimal code ++ ", kind: ".toList ++ kind.toList ++
      ", message: ".toList ++ Text.quoted description.toList ++ " \x7d".toList
  | none =>
    "Error \x7b kind: ".toList ++ f.own.1.toList ++ ", message: ".toList ++
      Text.quoted f.own.2.toList ++ " \x7d".toList

end Fault

end QueueJournal.Storage
