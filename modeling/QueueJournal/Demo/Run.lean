import QueueJournal.Demo.Basic

/-!
# Running the demonstration

One order of the steps among the many that are possible: of the workers that can take a step, the
consumers come first, then the producers, then the coordinator. The run ends when no step brings the
demonstration further, which the work that is left at the beginning bounds.
-/

namespace QueueJournal.Demo

/-- The steps of all workers, those that are preferred first. -/
def Plan.actions (plan : Plan) : List Action :=
  (List.range plan.consumers).map .consumer ++
    (List.range plan.producers).map (.producer · 0) ++ [.coordinator]

namespace State

/-- The state after the preferred step among those that bring the demonstration further. -/
def advance? (plan : Plan) (s : State) : Option State :=
  plan.actions.findSome? fun action ↦ if s.isProgress action then s.next? plan action else none

/-- Takes at most so many steps. -/
def advance (plan : Plan) (s : State) : Nat → State
  | 0 => s
  | steps + 1 =>
    match s.advance? plan with
    | none => s
    | some s => s.advance plan steps

end State

/-- Runs a demonstration to its end, with events that are numbered from `firstId` on and stamped
with one time. -/
def run (plan : Plan) (firstId now : Nat) : State :=
  let s := State.initial plan firstId now
  s.advance plan (s.work plan)

end QueueJournal.Demo
