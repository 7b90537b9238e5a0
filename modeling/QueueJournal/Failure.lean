import QueueJournal.Json.Fault
import QueueJournal.Storage.Fault

/-!
# Failures

What can go wrong with journals, settings and workers. A queue itself never fails: what it refuses
or does not have is an answer. Every failure has a message of one line and a diagnostic text that
names all its parts.
-/

namespace QueueJournal

/-- Why an entry of a journal could not be written or read. -/
inductive RecordFault where
  /-- A line is no event: what is wrong with it, and how many bytes stand before that. -/
  | line (cause : Json.Cause) (column : Nat)
  /-- An item refuses to be written. -/
  | refused (reason : String)
  /-- The device failed while the entry was being written. -/
  | device (fault : Storage.Fault)
deriving DecidableEq, Repr

namespace RecordFault

/-- What is wrong, without its place. -/
def reason : RecordFault → List Char
  | line cause _ => cause.message
  | refused reason => reason.toList
  | device fault => fault.message

/-- The line and the column of the fault; both are zero where there is no place. Every line is read
by itself, as the first. -/
def position : RecordFault → Nat × Nat
  | line _ column => (1, column)
  | _ => (0, 0)

/-- The wording of a fault. -/
def message : RecordFault → List Char
  | line cause column => cause.message ++ " at line 1 column ".toList ++ Text.decimal column
  | f => f.reason

/-- The fault with all its parts named. -/
def diagnostic (f : RecordFault) : List Char :=
  "Error(".toList ++ Text.quoted f.reason ++ ", line: ".toList ++ Text.decimal f.position.1 ++
    ", column: ".toList ++ Text.decimal f.position.2 ++ [')']

end RecordFault

/-- What went wrong. -/
inductive Failure where
  /-- The journal's file cannot be opened, read or written. -/
  | storage (fault : Storage.Fault)
  /-- An entry of the journal cannot be written or read. -/
  | record (fault : RecordFault)
  /-- The value under a key makes no setting. -/
  | setting (key : String) (value : String)
  /-- A worker did not end normally. -/
  | workerPanicked (worker : String)
deriving DecidableEq, Repr

namespace Failure

/-- The message of a failure. -/
def message : Failure → List Char
  | storage fault => "journal i/o failed: ".toList ++ fault.message
  | record fault => "journal entry could not be encoded or decoded: ".toList ++ fault.message
  | setting key value =>
    "invalid value ".toList ++ Text.quoted value.toList ++ " for ".toList ++ key.toList
  | workerPanicked worker => "worker thread ".toList ++ worker.toList ++ " panicked".toList

/-- The failure with all its parts named. -/
def diagnostic : Failure → List Char
  | storage fault => "Io(".toList ++ fault.diagnostic ++ [')']
  | record fault => "Serialize(".toList ++ fault.diagnostic ++ [')']
  | setting key value =>
    "Config \x7b key: ".toList ++ Text.quoted key.toList ++ ", value: ".toList ++
      Text.quoted value.toList ++ " \x7d".toList
  | workerPanicked worker => "WorkerPanicked(".toList ++ Text.quoted worker.toList ++ [')']

end Failure

end QueueJournal
