import QueueJournal.Program

/-!
# Running the program from the command line

Reads the settings from the environment, writes what is reported to the standard output and a
failure to the error output, and appends the journal to its file.
-/

namespace QueueJournal.Main

/-- The fault behind an error of the system. -/
def faultOf : IO.Error → Storage.Fault
  | .inappropriateType _ code _ => if code = 21 then .isDirectory else .notDirectory
  | .resourceExhausted _ _ _ => .noSpace
  | .invalidArgument _ _ _ => .nameTooLong
  | _ => .notFound

/-- Appends bytes to a file, which is made if it is missing. -/
def appendBytes (path : String) (bytes : Bytes) : IO (Except Failure Unit) := do
  if '\x00' ∈ path.toList then return .error (.storage .nulInPath)
  try
    let handle ← IO.FS.Handle.mk path .append
    handle.write bytes.toByteArray
    handle.flush
    return .ok ()
  catch e =>
    return .error (.storage (faultOf e))

/-- The values that the environment has under the keys of the settings. -/
def environment : IO (List (String × String)) :=
  Settings.keys.filterMapM fun key ↦ do
    return (← IO.getEnv key).map (key, ·)

/-- Writes the important notices to the standard output. -/
def announce (notices : List Notice) : IO Unit :=
  for notice in notices do
    if notice.level == "INFO" then IO.println (String.ofList notice.render)

/-- Reports how a run has ended, and gives its status. -/
def conclude (outcome : Program.Outcome) : IO UInt32 := do
  announce outcome.notices
  IO.eprint (String.ofList outcome.errorOutput)
  return outcome.status.toUInt32

/-- Runs the program, with times that count from when the system was started. -/
def run : IO UInt32 := do
  let values ← environment
  let now ← IO.monoMsNow
  match Program.demonstrate (fun key ↦ values.lookup key) (1000 * now + 1) with
  | .error failure => conclude (.ofFailure [] failure)
  | .ok (s, path) =>
    let (sink, result) := s.journal.writeTo (.fresh true)
    match ← appendBytes path sink.landed, result with
    | .error failure, _ => conclude (.ofFailure s.notices failure)
    | .ok _, .error failure => conclude (.ofFailure s.notices failure)
    | .ok _, .ok lines => conclude (.success (s.notices ++ [.journalAppended lines]))

end QueueJournal.Main

/-- The entry point of the program. -/
def main : IO UInt32 :=
  QueueJournal.Main.run
