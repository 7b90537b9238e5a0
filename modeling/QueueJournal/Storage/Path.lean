/-!
# Paths

A path is taken apart at its slashes. Its route is what all spellings of a path have in common:
several slashes count as one, a slash at the end as none, and a dot stays where it is. Only a dot
that begins a path counts as a name of the route, because it says that the path starts at the
working directory.
-/

namespace QueueJournal.Storage

/-- The parts of a text between slashes. -/
def splitSlashes : List Char → List (List Char)
  | [] => [[]]
  | c :: s =>
    if c = '/' then [] :: splitSlashes s
    else
      match splitSlashes s with
      | [] => [[c]]
      | part :: parts => (c :: part) :: parts

/-- A path: where it starts, the names along it, and whether a slash ends it. -/
structure Path where
  /-- Whether it starts at the root. -/
  absolute : Bool
  /-- The names between the slashes. -/
  names : List String
  /-- Whether a slash follows the last name. -/
  endsInSlash : Bool
deriving DecidableEq, Repr

namespace Path

/-- Takes a path apart. Several slashes count as one. -/
def ofString (path : String) : Path where
  absolute := path.toList.head? == some '/'
  names := ((splitSlashes path.toList).filter fun part ↦ !part.isEmpty).map String.ofList
  endsInSlash := path.toList.getLast? == some '/'

/-- The names that are no dots. -/
def withoutDots (names : List String) : List String :=
  names.filter fun name ↦ name != "."

/-- The names of the route: those that are no dots, and a dot that begins a path which does not
start at the root. -/
def route (p : Path) : List String :=
  match p.names with
  | [] => []
  | name :: names =>
    if !p.absolute && name == "." then name :: withoutDots names else withoutDots (name :: names)

/-- Whether two paths are spellings of one: they start at the same place and have the same route. -/
def same (p q : Path) : Bool :=
  p.absolute == q.absolute && p.route == q.route

end Path

end QueueJournal.Storage
