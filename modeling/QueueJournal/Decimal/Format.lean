import QueueJournal.Decimal.Shortest
import QueueJournal.Text.Numeral

/-!
# The text of a number

How a finite binary number is written: its shortest decimal, positionally while the exponent of the
leading digit stays within two limits, in scientific form beyond them.
-/

namespace QueueJournal

/-- The decisions that fix the written form of a decimal. -/
structure Decimal.Format where
  /-- The least exponent of a leading digit that is written positionally. -/
  leastPositional : Int
  /-- The greatest exponent of a leading digit that is written positionally. -/
  greatestPositional : Int
  /-- What stands before an exponent that is not negative. -/
  positiveExponent : List Char

namespace Decimal

/-- The decimal with digits of its own in front of the point and behind it, at least one each. -/
def positional (d : Decimal) : List Char :=
  let digits := Text.decimal d.digits
  if 0 ≤ d.exponent then digits ++ List.replicate d.exponent.natAbs '0' ++ ['.', '0']
  else
    let places := d.exponent.natAbs
    if places < digits.length then
      digits.take (digits.length - places) ++ '.' :: digits.drop (digits.length - places)
    else ['0', '.'] ++ List.replicate (places - digits.length) '0' ++ digits

/-- The exponent of the leading digit. -/
def leading (d : Decimal) : Int :=
  d.exponent + ((Text.decimal d.digits).length : Int) - 1

/-- One digit, the others after a point if there are others, and the exponent of the first. -/
def scientific (format : Format) (d : Decimal) : List Char :=
  let mantissa : List Char :=
    match Text.decimal d.digits with
    | [] => []
    | [c] => [c]
    | c :: rest => c :: '.' :: rest
  let sign : List Char := if 0 ≤ d.leading then format.positiveExponent else ['-']
  mantissa ++ 'e' :: sign ++ Text.decimal d.leading.natAbs

/-- The written form of a positive decimal. -/
def render (format : Format) (d : Decimal) : List Char :=
  if format.leastPositional ≤ d.leading ∧ d.leading ≤ format.greatestPositional then d.positional
  else d.scientific format

end Decimal

/-- The written form of a finite number: a minus if the sign bit is set, then the shortest decimal
of the magnitude. -/
def Binary64.render (format : Decimal.Format) (x : Binary64) : List Char :=
  let sign : List Char := if x.isNegative then ['-'] else []
  let magnitude : List Char := if x.units = 0 then ['0', '.', '0'] else x.shortest.render format
  sign ++ magnitude

end QueueJournal
