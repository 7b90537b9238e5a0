import QueueJournal.Storage.Tree

/-!
# Buffered writing

What is written to a file goes through a buffer of 8192 bytes. A piece that leaves the buffer short
of full is kept in it; one that does not fit makes the buffer be written first; one as long as the
whole buffer is written by itself. When the sink is dropped, what is still buffered is written as
far as the device takes it.
-/

namespace QueueJournal.Storage

/-- A file that is being written to through a buffer. -/
structure Sink where
  /-- Whether the device takes bytes. -/
  accepts : Bool
  /-- What has been written to the device. -/
  written : Bytes
  /-- What waits to be written. -/
  buffer : Bytes

namespace Sink

/-- How many bytes the buffer holds. -/
def capacity : Nat := 8192

/-- A sink to which nothing has been written. -/
def fresh (accepts : Bool) : Sink := ⟨accepts, [], []⟩

/-- Writes bytes to the device, which refuses them if it is full and there are any. -/
def deliver (w : Sink) (bytes : Bytes) : Except Fault Sink :=
  if bytes.isEmpty then .ok w
  else if w.accepts then .ok { w with written := w.written ++ bytes }
  else .error .noSpace

/-- Writes the buffer to the device. -/
def flush (w : Sink) : Except Fault Sink := do
  let w' ← w.deliver w.buffer
  return { w' with buffer := [] }

/-- Takes a piece. -/
def put (w : Sink) (piece : Bytes) : Except Fault Sink :=
  if w.buffer.length + piece.length < capacity then .ok { w with buffer := w.buffer ++ piece }
  else do
    let w ← if capacity < w.buffer.length + piece.length then w.flush else pure w
    if capacity ≤ piece.length then w.deliver piece
    else return { w with buffer := w.buffer ++ piece }

/-- Takes pieces in order, up to the first that fails. Gives the sink as it is then, and the fault
if there was one. -/
def putAll (w : Sink) : List Bytes → Sink × Option Fault
  | [] => (w, none)
  | piece :: pieces =>
    match w.put piece with
    | .error fault => (w, some fault)
    | .ok w' => w'.putAll pieces

/-- Everything that has reached the device once the sink is dropped. -/
def landed (w : Sink) : Bytes :=
  if w.accepts then w.written ++ w.buffer else w.written

end Sink

end QueueJournal.Storage
