/-!
# Binary floating-point numbers of 64 bits

A number is its 64 bits, so that every NaN keeps its payload. The magnitude of a finite number is
counted in *units* of `2 ^ -1074`, the least positive number: it is `significand * 2 ^ scale` units,
a natural number. All arithmetic here is exact arithmetic on units followed by one rounding
(`nearest?`), to the nearest representable number and to the even significand in a tie.
-/

namespace QueueJournal

/-- A binary floating-point number: one sign bit, eleven exponent bits, fifty-two fraction bits. -/
structure Binary64 where
  /-- The sixty-four bits. -/
  bits : UInt64
deriving DecidableEq, Repr

namespace Binary64

/-! ### The parts of a number -/

/-- Whether the sign bit is set. -/
def isNegative (x : Binary64) : Bool :=
  1 <<< 63 ≤ x.bits.toNat

/-- The eleven exponent bits as a number. -/
def exponentField (x : Binary64) : Nat :=
  (x.bits.toNat >>> 52) % 2048

/-- The fifty-two fraction bits as a number. -/
def fraction (x : Binary64) : Nat :=
  x.bits.toNat % (1 <<< 52)

/-- Neither an infinity nor a NaN. -/
def isFinite (x : Binary64) : Bool :=
  x.exponentField != 2047

/-- Not a number. -/
def isNaN (x : Binary64) : Bool :=
  x.exponentField == 2047 && x.fraction != 0

/-- The significand of a finite number, with its leading one unless the number is subnormal. -/
def significand (x : Binary64) : Nat :=
  if x.exponentField = 0 then x.fraction else (1 <<< 52) + x.fraction

/-- The power of two, in units, that the significand is multiplied by. -/
def scale (x : Binary64) : Nat :=
  x.exponentField - 1

/-- The magnitude of a finite number in units of `2 ^ -1074`. -/
def units (x : Binary64) : Nat :=
  x.significand <<< x.scale

/-- How many units make one. -/
def unitsPerOne : Nat := 1 <<< 1074

/-- Equality of the numbers: a NaN equals nothing, and the two zeros are equal. -/
def same (x y : Binary64) : Bool :=
  !x.isNaN && !y.isNaN && (x.bits == y.bits || (x.bits ||| y.bits) <<< 1 == 0)

/-! ### Rounding -/

/-- The quotient rounded to the nearest natural number, a tie to the even one. -/
def divideToEven (num den : Nat) : Nat :=
  let q := num / den
  let r := num % den
  if den < 2 * r ∨ (2 * r = den ∧ q % 2 = 1) then q + 1 else q

/-- The number whose magnitude is nearest to `num / den`, or nothing where that is past the greatest
finite one. A significand of fifty-three bits at a scale occupies the bits
`scale * 2 ^ 52 + significand`, also when rounding has carried into one bit more. -/
def nearest? (num den : Nat) : Option Binary64 :=
  let inUnits := num * unitsPerOne
  let scale := (inUnits / den).log2 - 52
  let bits := (scale <<< 52) + divideToEven inUnits (den <<< scale)
  if bits < 2047 <<< 52 then some ⟨bits.toUInt64⟩ else none

/-- The number zero, with the sign bit clear. -/
def zero : Binary64 := ⟨0⟩

/-- The number with the other sign. -/
def negate (x : Binary64) : Binary64 :=
  ⟨x.bits ^^^ ((1 : UInt64) <<< 63)⟩

/-- The number nearest to an integer of at most sixty-four bits. -/
def ofInt (n : Int) : Binary64 :=
  let magnitude := (nearest? n.natAbs 1).getD zero
  if n < 0 then magnitude.negate else magnitude

/-! ### Decimal scaling -/

/-- The number nearest to a power of ten with a finite nearest number, which is up to the 308th. -/
def powerOfTen (k : Nat) : Binary64 :=
  (nearest? (Nat.pow 10 k) 1).getD zero

/-- The product of the magnitudes, rounded; nothing where it is past the greatest finite number. -/
def times? (x y : Binary64) : Option Binary64 :=
  nearest? (x.units * y.units) (unitsPerOne * unitsPerOne)

/-- The quotient of the magnitudes, rounded. -/
def dividedBy (x y : Binary64) : Binary64 :=
  (nearest? x.units y.units).getD zero

/-- The magnitude divided by `10 ^ k`, in steps of `10 ^ 308` that are each rounded, until what is
left is one division or zero. -/
def scaleDown (x : Binary64) (k : Nat) : Binary64 :=
  if k ≤ 308 then x.dividedBy (powerOfTen k)
  else if x.units = 0 then x
  else (x.dividedBy (powerOfTen 308)).scaleDown (k - 308)
termination_by k

/-- The magnitude multiplied by `10 ^ k`, rounded once; nothing where it is past the greatest finite
number or, unless the magnitude is zero, where the power of ten is. -/
def scaleUp? (x : Binary64) (k : Nat) : Option Binary64 :=
  if k ≤ 308 then x.times? (powerOfTen k)
  else if x.units = 0 then some x
  else none

/-- The magnitude of the decimal `significand * 10 ^ exponent`: the significand is rounded first and
the scaled number after it. -/
def ofDecimal? (significand : Nat) (exponent : Int) : Option Binary64 :=
  let x := (nearest? significand 1).getD zero
  if 0 ≤ exponent then x.scaleUp? exponent.natAbs else some (x.scaleDown exponent.natAbs)

end Binary64

end QueueJournal
