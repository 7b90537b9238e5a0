import QueueJournal.Failure
import QueueJournal.Storage.Path
import QueueJournal.Text.Blank

/-!
# Settings

How many producers and consumers a demonstration has, how many items each producer puts, and where
the journal goes. Settings are looked up by name, and every one has a default. A count is a decimal
numeral of at most sixty-four bits with an optional plus in front and blanks around it; a journal
path is taken as it is, unless it is blank.
-/

namespace QueueJournal

/-- What a demonstration is run with. -/
structure Settings where
  /-- How many workers put items. -/
  producers : Nat
  /-- How many workers take items. -/
  consumers : Nat
  /-- How many items each producer puts. -/
  itemsPerProducer : Nat
  /-- The path of the journal's file. -/
  journalPath : String
deriving DecidableEq, Repr

namespace Settings

/-- The settings where nothing is said. -/
def default : Settings where
  producers := 4
  consumers := 2
  itemsPerProducer := 3
  journalPath := "output.ndjson"

/-- Equality of settings, where the journal's path may be spelt in different ways. -/
def same (s t : Settings) : Bool :=
  s.producers == t.producers && s.consumers == t.consumers &&
    s.itemsPerProducer == t.itemsPerProducer &&
    (Storage.Path.ofString s.journalPath).same (.ofString t.journalPath)

/-- The key of the number of producers. -/
def producersKey : String := "QUEUE_DEMO_PRODUCERS"

/-- The key of the number of consumers. -/
def consumersKey : String := "QUEUE_DEMO_CONSUMERS"

/-- The key of the number of items. -/
def itemsKey : String := "QUEUE_DEMO_ITEMS"

/-- The key of the journal's path. -/
def journalKey : String := "QUEUE_DEMO_JOURNAL"

/-- All keys. -/
def keys : List String :=
  [producersKey, consumersKey, itemsKey, journalKey]

/-- A numeral without the plus that may stand in front of it. -/
def dropPlus : List Char → List Char
  | '+' :: s => s
  | s => s

/-- The count that a text stands for, if it stands for one. -/
def parseCount? (text : List Char) : Option Nat :=
  let digits := dropPlus (Text.trim text)
  if digits.isEmpty || !digits.all Char.isDigit then none
  else
    let n := Text.decimalValue digits
    if n < UInt64.size then some n else none

/-- The count under a key, or its default where there is no value. -/
def count (lookup : String → Option String) (key : String) (default : Nat) : Except Failure Nat :=
  match lookup key with
  | none => .ok default
  | some value =>
    match parseCount? value.toList with
    | some n => .ok n
    | none => .error (.setting key value)

/-- The journal's path, or its default where there is none or a blank one. -/
def path (lookup : String → Option String) : String :=
  match lookup journalKey with
  | none => default.journalPath
  | some value => if Text.isAllBlank value.toList then default.journalPath else value

/-- The settings that a look-up gives. Without producers or without consumers there is nothing to
demonstrate; this is noticed once all counts are known to be counts. -/
def ofLookup (lookup : String → Option String) : Except Failure Settings := do
  let producers ← count lookup producersKey default.producers
  let consumers ← count lookup consumersKey default.consumers
  let itemsPerProducer ← count lookup itemsKey default.itemsPerProducer
  if producers = 0 then .error (.setting producersKey "0")
  else if consumers = 0 then .error (.setting consumersKey "0")
  else return { producers, consumers, itemsPerProducer, journalPath := path lookup }

/-- The look-up in a list of keys and values, where a value that is not UTF-8 counts as absent. -/
def lookupIn (values : List (String × Bytes)) (key : String) : Option String :=
  match values.lookup key with
  | none => none
  | some bytes => (Text.decode? bytes).map String.ofList

end Settings

end QueueJournal
