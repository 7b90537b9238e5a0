import QueueJournal.Queue.Basic

/-!
# Iterating over a queue

Going over the items of a queue takes them out of it. What is taken are the items at the head, in
their order.
-/

namespace QueueJournal.Queue

variable {α : Type}

/-- Takes at most `limit` items. -/
def drain (q : Queue α) : Nat → List α × Queue α
  | 0 => ([], q)
  | limit + 1 =>
    match q.tryDequeue with
    | (none, q) => ([], q)
    | (some a, q) =>
      let (items, q) := q.drain limit
      (a :: items, q)

/-- Takes at most `limit` items, and none behind the first that `stop` holds of. -/
def drainThrough (stop : α → Bool) (q : Queue α) : Nat → List α × Queue α
  | 0 => ([], q)
  | limit + 1 =>
    match q.tryDequeue with
    | (none, q) => ([], q)
    | (some a, q) =>
      if stop a then ([a], q)
      else
        let (items, q) := q.drainThrough stop limit
        (a :: items, q)

/-- Takes all items. -/
def drainAll (q : Queue α) : List α × Queue α :=
  q.drain q.length

end QueueJournal.Queue
