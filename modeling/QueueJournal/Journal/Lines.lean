import QueueJournal.Event.Reader
import QueueJournal.Failure
import QueueJournal.Storage.Tree
import QueueJournal.Text.Blank

/-!
# Reading a journal file

The content of a file is cut into lines at line feeds, a carriage return in front of one goes with
it, and what stands behind the last line feed is a line unless it is empty. Every line holds an
event or is blank. The first line that is neither decides the failure; what comes behind it is not
looked at, and the events in front of it are not handed out.
-/

namespace QueueJournal.Journal

/-- The byte that ends a line. -/
def lineFeed : UInt8 := 10

/-- The byte that may stand in front of a line feed. -/
def carriageReturn : UInt8 := 13

/-- Puts a byte in front of the first line. -/
def consLine (b : UInt8) : List Bytes → List Bytes
  | [] => [[b]]
  | line :: lines => (b :: line) :: lines

/-- The lines of a content, without what ends them. -/
def splitLines : Bytes → List Bytes
  | [] => []
  | b :: bytes =>
    if b = lineFeed then [] :: splitLines bytes
    else
      match bytes with
      | [] => [[b]]
      | b' :: rest =>
        if b = carriageReturn ∧ b' = lineFeed then [] :: splitLines rest
        else consLine b (splitLines (b' :: rest))

/-- The event on a line, or nothing if the line is blank. -/
def parseLine {α : Type} [Item α] (line : Bytes) : Except Failure (Option (Event α)) :=
  match Text.decode? line with
  | none => .error (.storage .notText)
  | some s =>
    if Text.isAllBlank s then .ok none
    else
      match Event.parse s with
      | .ok event => .ok (some event)
      | .error fault => .error (.record (.line fault.cause (fault.column line.length)))

/-- The events on lines, up to the first line that fails. -/
def parseLines {α : Type} [Item α] : List Bytes → Except Failure (List (Event α))
  | [] => .ok []
  | line :: lines => do
    let event ← parseLine line
    let events ← parseLines lines
    return event.toList ++ events

/-- The events of a content. -/
def parse {α : Type} [Item α] (bytes : Bytes) : Except Failure (List (Event α)) :=
  parseLines (splitLines bytes)

/-- The events of the file at the end of a path. -/
def readFile {α : Type} [Item α] (storage : Storage) (path : String) :
    Except Failure (List (Event α)) :=
  match storage.content path with
  | .error fault => .error (.storage fault)
  | .ok bytes => parse bytes

end QueueJournal.Journal
