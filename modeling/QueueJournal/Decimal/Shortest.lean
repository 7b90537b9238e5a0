import QueueJournal.Decimal.Binary64

/-!
# Shortest decimals

The decimal with the fewest digits that reads back as a given binary number. The numbers that round
to it form an interval around it, whose ends belong to it exactly when its significand is even. For
one digit, two digits and so on, the two neighbours of the number on that decimal grid are tried:
the first grid with a neighbour in the interval wins, of two neighbours the nearer, and of two
equally near ones the even.
-/

namespace QueueJournal

/-- The positive decimal `digits * 10 ^ exponent`. -/
structure Decimal where
  /-- The digits as a number. -/
  digits : Nat
  /-- The power of ten that the last digit counts. -/
  exponent : Int
deriving DecidableEq, Repr

namespace Decimal

/-- How many decimal digits a number has; zero has none. -/
def digitCount (n : Nat) : Nat :=
  if n = 0 then 0 else (Nat.toDigits 10 n).length

/-- The exponent of the leading digit of the positive fraction `num / den`. -/
def leadingExponent (num den : Nat) : Int :=
  if den ≤ num then (digitCount (num / den) : Int) - 1
  else -(digitCount ((den - 1) / num) : Int)

/-- The same decimal without zeros at the end of its digits. -/
def reduced (d : Decimal) : Decimal :=
  if d.digits ≠ 0 ∧ d.digits % 10 = 0 then reduced ⟨d.digits / 10, d.exponent + 1⟩ else d
termination_by d.digits
decreasing_by omega

end Decimal

namespace Binary64

/-- The numbers that round to a finite positive number: those between `low / den` and `high / den`,
with the ends or without. -/
structure Neighbourhood where
  /-- The number itself is `middle / den`. -/
  middle : Nat
  /-- Halfway to the number below. -/
  low : Nat
  /-- Halfway to the number above. -/
  high : Nat
  /-- The common denominator. -/
  den : Nat
  /-- Whether the ends round to the number too. -/
  endsIncluded : Bool

/-- The neighbourhood of a finite positive number. Below a power of two the numbers lie twice as
dense as above it. -/
def neighbourhood (x : Binary64) : Neighbourhood :=
  let step := 1 <<< x.scale
  let middle := 4 * x.units
  { middle
    low := if x.fraction = 0 ∧ 1 < x.exponentField then middle - step else middle - 2 * step
    high := middle + 2 * step
    den := 4 * unitsPerOne
    endsIncluded := x.significand % 2 == 0 }

namespace Neighbourhood

/-- The point `digits * 10 ^ grid` times `den`, and the scale on which `low`, `middle` and `high`
compare with it. -/
def onGrid (r : Neighbourhood) (grid : Int) (digits : Nat) : Nat × Nat :=
  if 0 ≤ grid then (digits * Nat.pow 10 grid.natAbs * r.den, 1)
  else (digits * r.den, Nat.pow 10 grid.natAbs)

/-- Whether `digits * 10 ^ grid` rounds to the number. -/
def contains (r : Neighbourhood) (grid : Int) (digits : Nat) : Bool :=
  let (point, unit) := r.onGrid grid digits
  if r.endsIncluded then r.low * unit ≤ point && point ≤ r.high * unit
  else r.low * unit < point && point < r.high * unit

/-- The best of the two neighbours of the number on the grid of multiples of `10 ^ grid`, if one of
them rounds to it. -/
def bestOnGrid? (r : Neighbourhood) (grid : Int) : Option Decimal :=
  let below :=
    if 0 ≤ grid then r.middle / (r.den * Nat.pow 10 grid.natAbs)
    else r.middle * Nat.pow 10 grid.natAbs / r.den
  let (pointBelow, unit) := r.onGrid grid below
  let (pointAbove, _) := r.onGrid grid (below + 1)
  let gapBelow := r.middle * unit - pointBelow
  let gapAbove := pointAbove - r.middle * unit
  match r.contains grid below, r.contains grid (below + 1) with
  | false, false => none
  | true, false => some ⟨below, grid⟩
  | false, true => some ⟨below + 1, grid⟩
  | true, true =>
    if gapBelow < gapAbove ∨ (gapBelow = gapAbove ∧ below % 2 = 0) then some ⟨below, grid⟩
    else some ⟨below + 1, grid⟩

end Neighbourhood

/-- The shortest decimal that reads back as the magnitude of a finite number other than zero.
Seventeen digits are always enough, and a grid's upper neighbour may be a power of ten. -/
def shortest (x : Binary64) : Decimal :=
  let r := x.neighbourhood
  let leading := Decimal.leadingExponent r.middle r.den
  let best := (List.range 17).findSome? fun (more : Nat) ↦ r.bestOnGrid? (leading - more)
  (best.getD ⟨0, leading⟩).reduced

end Binary64

end QueueJournal
