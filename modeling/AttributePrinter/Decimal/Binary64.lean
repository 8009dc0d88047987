/-!
# Binary fractions of 64 bits

A finite number is a sign, a mantissa below 2^53 and a power of two from -1074 up; the rounding
of a decimal fraction to the nearest such number is done here in whole numbers, ties to the even
mantissa. Nothing is asserted about arithmetic on these numbers: the library only reads and
prints them.
-/

namespace AttributePrinter

/-- The number `± mantissa · 2 ^ exponent`, or an infinity. -/
inductive Binary64 where
  | finite (negative : Bool) (mantissa : Nat) (exponent : Int)
  | infinite (negative : Bool)
  deriving DecidableEq, Repr

namespace Binary64

def leastExponent : Int := -1074

def greatestExponent : Int := 971

/-- The quotient rounded to the nearest whole number, a half to the even neighbour. -/
def roundHalfEven (num den : Nat) : Nat :=
  let q := num / den
  let twice := 2 * (num % den)
  if twice < den then q
  else if den < twice then q + 1
  else if q % 2 = 0 then q else q + 1

/-- The number of decimal digits of `n`; zero has one. -/
def decimalLength (n : Nat) : Nat :=
  (Nat.toDigits 10 n).length

/-- `num / den` in units of `2 ^ exponent`, as a fraction. -/
def inUnits (num den : Nat) (exponent : Int) : Nat × Nat :=
  if 0 ≤ exponent then (num, den * Nat.pow 2 exponent.toNat)
  else (num * Nat.pow 2 (-exponent).toNat, den)

/-- The nearest number to the positive fraction `num / den`. The exponent is chosen so that the
mantissa has 53 bits, unless that would take it below the least one; the difference of the two
binary logarithms leaves two candidates. -/
def ofFraction (negative : Bool) (num den : Nat) : Binary64 :=
  let estimate : Int := (Nat.log2 num : Int) - (Nat.log2 den : Int) - 53
  let low := max estimate leastExponent
  let (n, d) := inUnits num den low
  let exponent := if Nat.pow 2 53 ≤ n / d then low + 1 else low
  let (n, d) := inUnits num den exponent
  let rounded := roundHalfEven n d
  let (mantissa, exponent) :=
    if rounded = Nat.pow 2 53 then (Nat.pow 2 52, exponent + 1) else (rounded, exponent)
  if greatestExponent < exponent then .infinite negative else .finite negative mantissa exponent

/-- The nearest number to `± digits · 10 ^ exponent`. A power of ten lies between the third and
the fourth power of two of the same exponent; where that alone puts the number outside the range
of the format, no power of ten is computed. -/
def ofDecimal (negative : Bool) (digits : Nat) (exponent : Int) : Binary64 :=
  let place : Int := Nat.log2 digits
  if digits = 0 ∨ place + 1 + 3 * exponent ≤ -1075 then .finite negative 0 leastExponent
  else if 0 ≤ exponent ∧ 1024 ≤ place + 3 * exponent then .infinite negative
  else if 0 ≤ exponent then ofFraction negative (digits * Nat.pow 10 exponent.toNat) 1
  else ofFraction negative digits (Nat.pow 10 (-exponent).toNat)

/-- The number of an interchange bit pattern; a pattern of all exponent bits counts as infinite. -/
def ofBits (bits : Nat) : Binary64 :=
  let negative : Bool := bits / Nat.pow 2 63 % 2 = 1
  let biased : Nat := bits / Nat.pow 2 52 % Nat.pow 2 11
  let fraction : Nat := bits % Nat.pow 2 52
  if biased = 2047 then .infinite negative
  else if biased = 0 then .finite negative fraction leastExponent
  else .finite negative (Nat.pow 2 52 + fraction) ((biased : Int) - 1075)

end Binary64

end AttributePrinter
