import AttributePrinter.Decimal.Binary64

/-!
# The fewest digits that read back

Every decimal fraction inside the interval of a binary number reads back as that number. The
digits chosen are those of the coarsest decimal grid with a point in the interval; of two such
points on one grid the nearer one is taken, and a tie goes as the caller says.
-/

namespace AttributePrinter.Decimal

/-- Where a value in the middle of two neighbours goes. -/
inductive Tie where
  | up
  | even
  deriving DecidableEq, Repr

/-- The interval that rounds to a number, as numerators over one denominator. The ends belong to
it exactly if the mantissa is even. -/
structure Interval where
  low : Nat
  value : Nat
  high : Nat
  den : Nat
  closed : Bool
  deriving DecidableEq, Repr

/-- Below a power of two the numbers lie twice as close as above it. -/
def Interval.of (mantissa : Nat) (exponent : Int) : Interval :=
  let up := Nat.pow 2 (exponent - 2).toNat
  let below := if mantissa = Nat.pow 2 52 ∧ Binary64.leastExponent < exponent then 1 else 2
  { low := (4 * mantissa - below) * up
    value := 4 * mantissa * up
    high := (4 * mantissa + 2) * up
    den := Nat.pow 2 (2 - exponent).toNat
    closed := mantissa % 2 = 0 }

/-- Whether `digits · 10 ^ place` lies in the interval. -/
def Interval.holds (i : Interval) (digits : Nat) (place : Int) : Bool :=
  let point := digits * Nat.pow 10 place.toNat * i.den
  let scale := Nat.pow 10 (-place).toNat
  if i.closed then i.low * scale ≤ point && point ≤ i.high * scale
  else i.low * scale < point && point < i.high * scale

/-- The point to take on the grid `10 ^ place`, if one lies in the interval. -/
def Interval.point? (i : Interval) (tie : Tie) (place : Int) : Option Nat :=
  let num := i.value * Nat.pow 10 (-place).toNat
  let den := i.den * Nat.pow 10 place.toNat
  let below := num / den
  match i.holds below place && below != 0, i.holds (below + 1) place with
  | false, false => none
  | true, false => some below
  | false, true => some (below + 1)
  | true, true =>
    let twice := 2 * (num % den)
    if twice < den then some below
    else if den < twice then some (below + 1)
    else match tie with
      | .up => some (below + 1)
      | .even => if below % 2 = 0 then some below else some (below + 1)

/-- The grids from `place` down, the first with a point in the interval. -/
def Interval.search (i : Interval) (tie : Tie) : Nat → Int → Nat × Int
  | 0, place =>
    (i.value * Nat.pow 10 (-place).toNat / (i.den * Nat.pow 10 place.toNat), place)
  | fuel + 1, place =>
    match i.point? tie place with
    | some digits => (digits, place)
    | none => i.search tie fuel (place - 1)

/-- The place of the first digit: the value is below `10 ^ p` and at least a tenth of that. -/
def Interval.firstPlace (i : Interval) : Int :=
  if i.den ≤ i.value then Binary64.decimalLength (i.value / i.den)
  else 1 - (Binary64.decimalLength (i.den / i.value) : Int)

/-- A zero at the end of the digits moves into the exponent. -/
def dropZeros : Nat → Nat → Int → Nat × Int
  | 0, digits, place => (digits, place)
  | fuel + 1, digits, place =>
    if digits ≠ 0 ∧ digits % 10 = 0 then dropZeros fuel (digits / 10) (place + 1)
    else (digits, place)

/-- Digits and place of `mantissa · 2 ^ exponent`, which must not be zero: seventeen grids hold
a point of every number. -/
def shortest (tie : Tie) (mantissa : Nat) (exponent : Int) : Nat × Int :=
  let i := Interval.of mantissa exponent
  let (digits, place) := i.search tie 17 (i.firstPlace - 1)
  dropZeros 18 digits place

end AttributePrinter.Decimal
