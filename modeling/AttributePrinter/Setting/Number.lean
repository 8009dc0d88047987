import AttributePrinter.Setting.Value
import AttributePrinter.Text.Blank

/-!
# Unquoted settings

A text without quotes is a number if it is written as one and a text otherwise. A point makes it
a binary fraction; without a point it is a natural number, which may carry a plus sign, or an
integer behind a minus sign. Numbers that do not fit into 64 bits are texts. The exponent of a
fraction is read only so far: whatever stands behind an exponent this large, the fraction is zero
or infinite, unless tens of thousands of its own digits make up for it.
-/

namespace AttributePrinter.Setting

def isDigit (c : Char) : Bool :=
  '0' ≤ c && c ≤ '9'

/-- One more digit behind a number. -/
def appendDigit (n : Nat) (c : Char) : Nat :=
  10 * n + (c.toNat - '0'.toNat)

/-- The number that a row of digits stands for; there must be at least one. -/
def digits? (text : Text) : Option Nat :=
  if text ≠ [] ∧ text.all isDigit then some (text.foldl appendDigit 0) else none

/-- Below 2^64, with or without a plus sign. -/
def natural? (text : Text) : Option Nat :=
  let digits := match text with
    | '+' :: rest => rest
    | _ => text
  (digits? digits).filter (· < Nat.pow 2 64)

/-- Behind a minus sign, from -2^63 up. The other integers are natural numbers already. -/
def integer? : Text → Option Int
  | '-' :: rest => ((digits? rest).filter (· ≤ Nat.pow 2 63)).map fun n => -(n : Int)
  | _ => none

/-- An exponent that has reached this size is full. -/
def fullExponent : Nat :=
  Nat.pow 2 16

/-- The size of an exponent, read from its digits until it is full. Those behind must be digits
too, but they no longer count. -/
def exponentSize? (text : Text) : Option Nat :=
  if text ≠ [] ∧ text.all isDigit then
    some (text.foldl (fun n c => if n < fullExponent then appendDigit n c else n) 0)
  else none

/-- An exponent: nothing at all, or its letter, a sign and digits. -/
def exponent? : Text → Option Int
  | [] => some 0
  | 'e' :: '-' :: rest | 'E' :: '-' :: rest => (exponentSize? rest).map fun n => -(n : Int)
  | 'e' :: '+' :: rest | 'E' :: '+' :: rest => (exponentSize? rest).map fun n => (n : Int)
  | 'e' :: rest | 'E' :: rest => (exponentSize? rest).map fun n => (n : Int)
  | _ => none

/-- An unsigned fraction: digits, a point and digits, where one side of the point may be empty,
and an exponent. -/
def unsignedFraction? (negative : Bool) (text : Text) : Option Binary64 :=
  let whole := text.takeWhile isDigit
  match text.dropWhile isDigit with
  | '.' :: rest =>
    let part := rest.takeWhile isDigit
    match digits? (whole ++ part), exponent? (rest.dropWhile isDigit) with
    | some n, some e => some (Binary64.ofDecimal negative n (e - (part.length : Int)))
    | _, _ => none
  | _ => none

def fraction? : Text → Option Binary64
  | '-' :: rest => unsignedFraction? true rest
  | '+' :: rest => unsignedFraction? false rest
  | text => unsignedFraction? false text

/-- The value of a text that is neither quoted nor bracketed. -/
def Value.ofBare (text : Text) : Value :=
  match fraction? text with
  | some x => .fraction x
  | none =>
    match natural? text with
    | some n => .natural n
    | none =>
      match integer? text with
      | some i => .integer i
      | none => .text text

end AttributePrinter.Setting
