import QueueJournal.Demo.Run
import QueueJournal.Journal.Append
import QueueJournal.Settings

/-!
# The program

Runs a demonstration with the settings of its environment and appends the journal to a file. A
failure ends the program with status one and its diagnostic text.
-/

namespace QueueJournal

/-- The size of the demonstration that settings ask for. -/
def Settings.plan (settings : Settings) : Demo.Plan where
  producers := settings.producers
  consumers := settings.consumers
  items := settings.itemsPerProducer

namespace Program

/-- How a run of the program ends. -/
structure Outcome where
  /-- The status, zero unless something failed. -/
  status : Nat
  /-- What is written to the error output. -/
  errorOutput : List Char
  /-- What was reported. -/
  notices : List Notice

/-- The end of a run that failed. -/
def Outcome.ofFailure (notices : List Notice) (failure : Failure) : Outcome where
  status := 1
  errorOutput := "Error: ".toList ++ failure.diagnostic ++ ['\n']
  notices := notices

/-- The end of a run that did not fail. -/
def Outcome.success (notices : List Notice) : Outcome := ⟨0, [], notices⟩

/-- The number of the first event of a run. -/
def firstId : Nat := 1

/-- Runs the demonstration that a look-up asks for, at a time in microseconds. Gives its end and the
path of the journal. -/
def demonstrate (lookup : String → Option String) (now : Nat) :
    Except Failure (Demo.State × String) :=
  (Settings.ofLookup lookup).map fun settings ↦
    (Demo.run settings.plan firstId now, settings.journalPath)

/-- Runs the program on a tree of files, at a time in microseconds. -/
def run (lookup : String → Option String) (storage : Storage) (now : Nat) : Outcome × Storage :=
  match demonstrate lookup now with
  | .error failure => (.ofFailure [] failure, storage)
  | .ok (s, path) =>
    match s.journal.append storage path with
    | (.error failure, storage) => (.ofFailure s.notices failure, storage)
    | (.ok lines, storage) => (.success (s.notices ++ [.journalAppended lines]), storage)

/-- Runs the program several times on the same files. -/
def runMany (lookup : String → Option String) (storage : Storage) (now : Nat) :
    Nat → List Outcome × Storage
  | 0 => ([], storage)
  | count + 1 =>
    let (outcome, storage) := run lookup storage now
    let (outcomes, storage) := runMany lookup storage now count
    (outcome :: outcomes, storage)

end Program

end QueueJournal
