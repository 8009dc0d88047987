import AttributePrinter.Decimal.Shortest
import AttributePrinter.Text.Basic

/-!
# Written numbers

A style settles what the digits alone leave open: which numbers are written with their point in
place and which with a power of ten, what a whole number carries behind its digits, and where
ties among the shortest digits go.
-/

namespace AttributePrinter.Decimal

/-- The place of a number is that of its first digit: `1` has place one and `0.1` place zero. -/
structure Style where
  positional : Int → Bool
  wholeSuffix : String
  tie : Tie

def sign (negative : Bool) : String :=
  if negative then "-" else ""

def zeros (n : Nat) : String :=
  String.ofList (List.replicate n '0')

/-- The digits with the point in its place. -/
def positionalText (wholeSuffix : String) (digits : Nat) (place : Int) : String :=
  let ds := Nat.toDigits 10 digits
  if 0 ≤ place then String.ofList ds ++ zeros place.toNat ++ wholeSuffix
  else
    let behind := (-place).toNat
    if behind < ds.length then
      String.ofList (ds.take (ds.length - behind)) ++ "." ++
        String.ofList (ds.drop (ds.length - behind))
    else "0." ++ zeros (behind - ds.length) ++ String.ofList ds

/-- One digit before the point, and no point if there are no more. The power of ten always carries
its sign. -/
def scientificText (digits : Nat) (place : Int) : String :=
  let ds := Nat.toDigits 10 digits
  let power := place + (ds.length : Int) - 1
  let fraction := if ds.length = 1 then "" else "." ++ String.ofList (ds.drop 1)
  String.ofList (ds.take 1) ++ fraction ++ "e" ++ (if 0 ≤ power then "+" else "") ++
    toString power

def Style.write (style : Style) : Binary64 → String
  | .infinite negative => sign negative ++ "inf"
  | .finite negative mantissa exponent =>
    if mantissa = 0 then sign negative ++ "0" ++ style.wholeSuffix
    else
      let (digits, place) := shortest style.tie mantissa exponent
      let first := place + (Binary64.decimalLength digits : Int)
      if style.positional first then sign negative ++ positionalText style.wholeSuffix digits place
      else sign negative ++ scientificText digits place

end AttributePrinter.Decimal
