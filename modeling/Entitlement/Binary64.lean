/-!
# Binary floating point, 64 bits wide

Numbers of the 64-bit binary format without any use of floating point: a number is a sign, a
significand and an exponent, and each operation forms an exact quotient of integers that is
rounded once.

The shortest decimal that reads back is found by exact comparison with the midpoints to the
neighbouring numbers.  Where a product of several factors is needed, it is formed with 64
binary digits first.
-/

namespace Entitlement

/-! ## Numbers and rounding

A finite number as a sign, a significand and an exponent.  Every operation forms the exact
quotient and rounds it once, to the nearest number of the format and to the even neighbour from
halfway. -/

/-- The number `± significand * 2 ^ exponent`.  Rounding delivers the form with
`significand < 2 ^ 53` and the least exponent from `-1074` on, so that two equal
numbers other than the zeros have one form. -/
structure Binary64 where
  negative : Bool
  significand : Nat
  exponent : Int
  deriving DecidableEq, Repr

namespace Binary64

/-- The least exponent of the format. -/
def minExponent : Int := -1074

/-- The greatest exponent of a finite number. -/
def maxExponent : Int := 971

/-- Zero with a sign. -/
def zero (negative : Bool) : Binary64 := ⟨negative, 0, minExponent⟩

/-- Whether the number is one of the two zeros. -/
def isZero (x : Binary64) : Bool := x.significand == 0

/-- Equality of values: the two zeros are equal, no other two numbers are. -/
def same (x y : Binary64) : Bool := x == y || (x.isZero && y.isZero)

/-- The quotient rounded to a whole number, a half to the even neighbour. -/
def roundHalfEven (num den : Nat) : Nat :=
  let quotient := num / den
  let rest := num % den
  if 2 * rest < den then quotient
  else if den < 2 * rest then quotient + 1
  else if quotient % 2 = 0 then quotient
  else quotient + 1

/-- Numerator and denominator of `num / den / 2 ^ exponent`. -/
def scaleBy (num den : Nat) (exponent : Int) : Nat × Nat :=
  if 0 ≤ exponent then (num, den * Nat.pow 2 exponent.toNat)
  else (num * Nat.pow 2 (-exponent).toNat, den)

/-- The number of the format nearest to `num / den`, unless that lies beyond the
finite ones. -/
def ofRatio (negative : Bool) (num den : Nat) : Option Binary64 :=
  if num = 0 then some (zero negative)
  else
    let top : Int := (num.log2 : Int) - den.log2
    let (highNum, highDen) := scaleBy num den top
    let wanted := if highDen ≤ highNum then top - 52 else top - 53
    let exponent := max wanted minExponent
    let (scaledNum, scaledDen) := scaleBy num den exponent
    let significand := roundHalfEven scaledNum scaledDen
    let (significand, exponent) :=
      if significand = Nat.pow 2 53 then (Nat.pow 2 52, exponent + 1) else (significand, exponent)
    if exponent ≤ maxExponent then some ⟨negative, significand, exponent⟩ else none

/-- The number nearest to a natural number. -/
def ofNat? (n : Nat) : Option Binary64 := ofRatio false n 1

/-- The magnitude as a quotient of natural numbers. -/
def ratio (x : Binary64) : Nat × Nat :=
  if 0 ≤ x.exponent then (x.significand * Nat.pow 2 x.exponent.toNat, 1)
  else (x.significand, Nat.pow 2 (-x.exponent).toNat)

/-- The product, rounded once. -/
def mul? (x y : Binary64) : Option Binary64 :=
  ofRatio (x.negative != y.negative) (x.ratio.1 * y.ratio.1) (x.ratio.2 * y.ratio.2)

/-- The quotient by a number other than zero, rounded once. -/
def div? (x y : Binary64) : Option Binary64 :=
  ofRatio (x.negative != y.negative) (x.ratio.1 * y.ratio.2) (x.ratio.2 * y.ratio.1)

/-- The number with the given sign. -/
def withSign (negative : Bool) (x : Binary64) : Binary64 := { x with negative := negative }

end Binary64

/-! ## The shortest decimal of a binary number

Of all decimals that read back as a given number, the one with the fewest
digits, and among those the nearest.  A decimal reads back when it lies between
the midpoints to the two neighbouring numbers, the midpoints included when the
significand is even.  The grids of decimals are tried from coarse to fine; on
each, only the two points around the number can be nearest. -/

namespace Binary64

/-- The decimal `coefficient * 10 ^ exponent`. -/
structure Decimal where
  coefficient : Nat
  exponent : Int
  deriving DecidableEq, Repr

/-- The magnitude and the midpoints below and above it, all multiplied by
`scale`. -/
structure Neighbourhood where
  low : Nat
  value : Nat
  high : Nat
  scale : Nat
  closed : Bool

/-- The neighbourhood of a positive magnitude.  Below a power of two the numbers
lie twice as dense. -/
def neighbourhood (x : Binary64) : Neighbourhood :=
  let m := x.significand
  let below := if m = Nat.pow 2 52 && minExponent < x.exponent then 1 else 2
  let shift := x.exponent - 2
  let up := Nat.pow 2 shift.toNat
  { low := (4 * m - below) * up, value := 4 * m * up, high := (4 * m + 2) * up,
    scale := Nat.pow 2 (-shift).toNat, closed := m % 2 == 0 }

namespace Neighbourhood

/-- Whether a point lies strictly inside, or on an end that belongs to it. -/
def admits (n : Neighbourhood) (point : Nat) : Bool :=
  if n.closed then n.low ≤ point && point ≤ n.high else n.low < point && point < n.high

/-- The neighbourhood measured so that the grid `10 ^ exponent` becomes the
multiples of the second component. -/
def onGrid (n : Neighbourhood) (exponent : Int) : Neighbourhood × Nat :=
  let up := Nat.pow 10 (-exponent).toNat
  ({ n with low := n.low * up, value := n.value * up, high := n.high * up },
    n.scale * Nat.pow 10 exponent.toNat)

/-- The point of the grid `10 ^ exponent` that reads back, the nearer if two do
and the even one if both are equally near. -/
def pick? (n : Neighbourhood) (exponent : Int) : Option Nat :=
  let (m, unit) := n.onGrid exponent
  let floor := m.value / unit
  let floorFits := floor != 0 && m.admits (floor * unit)
  let ceilFits := m.admits ((floor + 1) * unit)
  let gapDown := m.value - floor * unit
  let gapUp := (floor + 1) * unit - m.value
  match floorFits, ceilFits with
  | false, false => none
  | true, false => some floor
  | false, true => some (floor + 1)
  | true, true =>
      if gapDown < gapUp || (gapDown == gapUp && floor % 2 == 0) then some floor
      else some (floor + 1)

/-- The first hit on the grids from `exponent` downwards. -/
def search (n : Neighbourhood) : Nat → Int → Decimal
  | 0, exponent => ⟨0, exponent⟩
  | fuel + 1, exponent =>
      match n.pick? exponent with
      | some coefficient => ⟨coefficient, exponent⟩
      | none => search n fuel (exponent - 1)

end Neighbourhood

/-- The shortest decimal that reads back as the magnitude of `x`.  The search
starts above the leading digit and ends by the seventeenth, which always
suffices. -/
def shortest (x : Binary64) : Decimal :=
  if x.isZero then ⟨0, 0⟩
  else
    let bits : Int := (x.significand.log2 : Int) + 1 + x.exponent
    x.neighbourhood.search 30 (bits * 30103 / 100000 + 2)

end Binary64

/-! ## More binary digits

Numbers with a longer significand than those of the 64-bit format, in which a product of
several factors is formed before it is rounded to that format.  Every product is rounded
to 64 binary digits, to the even neighbour from halfway.  The exponent is not bounded. -/

/-- The number `significand * 2 ^ exponent`. -/
structure Extended where
  significand : Nat
  exponent : Int
  deriving DecidableEq, Repr

namespace Extended

/-- The number nearest to `num / den`. -/
def ofRatio (num den : Nat) : Extended :=
  if num = 0 then ⟨0, 0⟩
  else
    let top : Int := (num.log2 : Int) - den.log2
    let (highNum, highDen) := Binary64.scaleBy num den top
    let exponent := if highDen ≤ highNum then top - 63 else top - 64
    let (scaledNum, scaledDen) := Binary64.scaleBy num den exponent
    ⟨Binary64.roundHalfEven scaledNum scaledDen, exponent⟩

/-- The product, rounded once. -/
def mul (x y : Extended) : Extended :=
  let product := ofRatio (x.significand * y.significand) 1
  ⟨product.significand, product.exponent + x.exponent + y.exponent⟩

/-- The product with a factor that is taken several times, rounded after each. -/
def mulRepeated (factor : Extended) : Nat → Extended → Extended
  | 0, x => x
  | times + 1, x => mulRepeated factor times (x.mul factor)

/-- The number times powers of ten, one after the other: a hundred places at once, then
ten, then one.  `power` gives the factor for some places. -/
def shiftPlaces (power : Nat → Extended) (places : Nat) (x : Extended) : Extended :=
  mulRepeated (power 1) (places % 10)
    (mulRepeated (power 10) (places % 100 / 10) (mulRepeated (power 100) (places / 100) x))

/-- The number times `10 ^ places`. -/
def shiftDecimal (places : Int) (x : Extended) : Extended :=
  if 0 ≤ places then shiftPlaces (fun n => ofRatio (Nat.pow 10 n) 1) places.toNat x
  else shiftPlaces (fun n => ofRatio 1 (Nat.pow 10 n)) (-places).toNat x

/-- The number as a quotient of natural numbers. -/
def ratio (x : Extended) : Nat × Nat :=
  if 0 ≤ x.exponent then (x.significand * Nat.pow 2 x.exponent.toNat, 1)
  else (x.significand, Nat.pow 2 (-x.exponent).toNat)

/-- The greatest finite number of the 64-bit format. -/
def greatestFinite : Nat := (Nat.pow 2 53 - 1) * Nat.pow 2 971

/-- The number of the 64-bit format nearest to it with a sign, unless it lies beyond the
finite ones. -/
def toBinary64? (negative : Bool) (x : Extended) : Option Binary64 :=
  if greatestFinite * x.ratio.2 < x.ratio.1 then none
  else Binary64.ofRatio negative x.ratio.1 x.ratio.2

end Extended

end Entitlement
