import QueueJournal.Journal.Audit
import QueueJournal.Main
import QueueJournal.Proofs.Crowd.Conservation
import QueueJournal.Proofs.Crowd.EndOfStream
import QueueJournal.Proofs.Crowd.Linearization
import QueueJournal.Proofs.Demo.Progress
import QueueJournal.Session.Run
import QueueJournal.Proofs.Demo.Account
import QueueJournal.Proofs.Demo.Delivery
import QueueJournal.Proofs.Event.RoundTrip
import QueueJournal.Proofs.Journal.Lines
import QueueJournal.Proofs.Storage.Appending
import QueueJournal.Proofs.Journal.RoundTrip
import QueueJournal.Proofs.Journal.Interrupted
import QueueJournal.Proofs.Crowd.Closing
import QueueJournal.Proofs.Journal.Replay
import QueueJournal.Proofs.Demo.History
import QueueJournal.Proofs.Session.Diary
import QueueJournal.Proofs.Demo.Numbering
import QueueJournal.Proofs.Demo.Chronology
import QueueJournal.Proofs.Demo.Precedence
import QueueJournal.Proofs.Journal.LineByLine
import QueueJournal.Proofs.Journal.Values
import QueueJournal.Proofs.Journal.Accepting
import QueueJournal.Proofs.Crowd.Handle
import QueueJournal.Proofs.Journal.FullDevice
import QueueJournal.Proofs.Crowd.Searching
import QueueJournal.Proofs.Monitor.Removal
import QueueJournal.Proofs.Crowd.Buffer
import QueueJournal.Proofs.Failure.Message
