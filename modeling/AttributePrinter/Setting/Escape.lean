import AttributePrinter.Text.Basic

/-!
# Escapes in quoted settings

Between double quotes a backslash starts an escape: eight characters have a short one and any
character can be given by four or eight hexadecimal digits. Control characters other than the
tab may not stand there as they are.

Two readings are defined. `expand?` replaces each escape by its character and keeps everything
else. `decode` is the reading that settings get: at the first escape it measures what came
before in characters and keeps that many bytes of it, which is less as soon as a longer
character is among them, and breaks down if the cut falls inside a character. From the first
escape on the two agree.
-/

namespace AttributePrinter.Setting

/-- Why a text was not read: it has another form, or the reading broke down. -/
inductive Flaw where
  | mismatch
  | breakdown
  deriving DecidableEq, Repr

namespace Escape

/-- The value of a hexadecimal digit, of either case. -/
def hexValue? (c : Char) : Option Nat :=
  let n := c.toNat
  if 0x30 ≤ n ∧ n ≤ 0x39 then some (n - 0x30)
  else if 0x61 ≤ n ∧ n ≤ 0x66 then some (n - 0x61 + 10)
  else if 0x41 ≤ n ∧ n ≤ 0x46 then some (n - 0x41 + 10)
  else none

def hexNumber? (digits : Text) : Option Nat :=
  digits.foldlM (fun n c => (hexValue? c).map (16 * n + ·)) 0

/-- The character with this code, if there is one: the surrogates are no characters. -/
def charOfCode? (code : Nat) : Option Char :=
  if code.isValidChar then some (Char.ofNat code) else none

def hexChar? (digits : Text) : Option Char :=
  (hexNumber? digits).bind charOfCode?

/-- The character that a short escape stands for. -/
def short? : Char → Option Char
  | '"' => some '"'
  | '\\' => some '\\'
  | 'b' => some '\x08'
  | 'f' => some '\x0C'
  | 'n' => some '\n'
  | 'r' => some '\r'
  | 't' => some '\t'
  | _ => none

/-- Whether a character may stand in a quoted text as it is. -/
def isPlain (c : Char) : Bool :=
  c == '\t' || (0x20 ≤ c.toNat && c != '\x7F')

def expand? : Text → Option Text
  | [] => some []
  | '\\' :: 'u' :: a :: b :: c :: d :: rest =>
    (hexChar? [a, b, c, d]).bind fun x => (expand? rest).map (x :: ·)
  | '\\' :: 'U' :: a :: b :: c :: d :: e :: f :: g :: h :: rest =>
    (hexChar? [a, b, c, d, e, f, g, h]).bind fun x => (expand? rest).map (x :: ·)
  | '\\' :: c :: rest => (short? c).bind fun x => (expand? rest).map (x :: ·)
  | c :: rest =>
    if c ≠ '\\' ∧ isPlain c then (expand? rest).map (c :: ·) else none

def decode (inside : Text) : Except Flaw Text :=
  let before := inside.takeWhile (· ≠ '\\')
  let escapes := inside.dropWhile (· ≠ '\\')
  if before.any (!isPlain ·) then .error .mismatch
  else if escapes = [] then .ok inside
  else
    match Text.takeBytes? before.length before with
    | none => .error .breakdown
    | some kept =>
      match expand? escapes with
      | none => .error .mismatch
      | some rest => .ok (kept ++ rest)

end Escape

end AttributePrinter.Setting
