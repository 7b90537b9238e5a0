import QueueJournal.Event.Writer
import QueueJournal.Failure
import QueueJournal.Journal.Lines
import QueueJournal.Journal.Basic
import QueueJournal.Storage.Sink

/-!
# Appending a journal to a file

The entries of a journal are written behind the content of a file, each on a line of its own. They
go through a buffer, so a full device is noticed either while an entry is being written or when the
buffer is written at the end. When writing stops early, what was written up to then stays in the
file.
-/

namespace QueueJournal.Journal

variable {α : Type} [Item α]

/-- Writes events, each with a line feed behind it. -/
def writeEntries (w : Storage.Sink) : List (Event α) → Storage.Sink × Option Failure
  | [] => (w, none)
  | event :: events =>
    let writing := event.write
    match w.putAll (writing.pieces.map Text.encode) with
    | (w, some fault) => (w, some (.record (.device fault)))
    | (w, none) =>
      match writing.refusal with
      | some reason => (w, some (.record (.refused reason)))
      | none =>
        match w.put [lineFeed] with
        | .error fault => (w, some (.storage fault))
        | .ok w => writeEntries w events

/-- Writes all entries of a journal and then the buffer. Gives the sink as it is then, and the
number of lines or what went wrong. -/
def writeTo (j : Journal α) (w : Storage.Sink) : Storage.Sink × Except Failure Nat :=
  match writeEntries w j.entries with
  | (w, some failure) => (w, .error failure)
  | (w, none) =>
    match w.flush with
    | .error fault => (w, .error (.storage fault))
    | .ok w => (w, .ok j.length)

/-- Appends a journal to the file at the end of a path, which is made if it is missing. Gives the
number of lines or what went wrong, and the files as they are then. -/
def append (j : Journal α) (storage : Storage) (path : String) : Except Failure Nat × Storage :=
  match storage.openFile path with
  | .error fault => (.error (.storage fault), storage)
  | .ok (location, storage) =>
    let (w, result) := j.writeTo (.fresh (storage.accepts location))
    (result, storage.addBytes location w.landed)

/-- What a content looks like once its events have been written anew. -/
structure Recoded where
  /-- How many lines were written. -/
  lines : Nat
  /-- The new content. -/
  content : Bytes
  /-- Whether the new content has the same events. -/
  stable : Bool

/-- Reads the events of a content and writes them anew. -/
def recode (α : Type) [Item α] (content : Bytes) : Except Failure Recoded := do
  let events ← parse (α := α) content
  let (w, result) := (⟨events⟩ : Journal α).writeTo (.fresh true)
  let lines ← result
  let stable :=
    match parse (α := α) w.landed with
    | .ok again => Event.sameAll again events
    | .error _ => false
  return { lines, stable, content := w.landed }

end QueueJournal.Journal
