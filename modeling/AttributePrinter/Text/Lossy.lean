import AttributePrinter.Text.Basic

/-!
# Bytes read as text

Reads bytes as UTF-8 and puts one replacement character for each maximal part that is not: a
part is the longest run that could still have begun a character. The reader keeps the character
it is in the middle of and is fed one byte at a time, so a byte that breaks a character off is
looked at again as the possible start of the next one.
-/

namespace AttributePrinter.Text.Lossy

def replacement : Char := '\uFFFD'

/-- What the bytes so far leave open: nothing, or a character that still needs `missing + 1`
bytes, the next of them between `least` and `most`. -/
inductive Pending where
  | nothing
  | character (value : Nat) (missing : Nat) (least most : Nat)
  deriving DecidableEq, Repr

/-- The start of a character. The bounds on the second byte leave out overlong forms, the
surrogates and everything above the last code point. -/
def start (byte : Nat) : Text × Pending :=
  if byte < 0x80 then ([Char.ofNat byte], .nothing)
  else if byte < 0xC2 then ([replacement], .nothing)
  else if byte < 0xE0 then ([], .character (byte - 0xC0) 0 0x80 0xBF)
  else if byte = 0xE0 then ([], .character 0 1 0xA0 0xBF)
  else if byte = 0xED then ([], .character 0xD 1 0x80 0x9F)
  else if byte < 0xF0 then ([], .character (byte - 0xE0) 1 0x80 0xBF)
  else if byte = 0xF0 then ([], .character 0 2 0x90 0xBF)
  else if byte < 0xF4 then ([], .character (byte - 0xF0) 2 0x80 0xBF)
  else if byte = 0xF4 then ([], .character 4 2 0x80 0x8F)
  else ([replacement], .nothing)

def feed : Pending → Nat → Text × Pending
  | .nothing, byte => start byte
  | .character value missing least most, byte =>
    if least ≤ byte ∧ byte ≤ most then
      let value := value * 0x40 + (byte - 0x80)
      match missing with
      | 0 => ([Char.ofNat value], .nothing)
      | missing + 1 => ([], .character value missing 0x80 0xBF)
    else
      let (text, pending) := start byte
      (replacement :: text, pending)

def finish : Pending → Text
  | .nothing => []
  | .character .. => [replacement]

def decodeFrom : Pending → Bytes → Text
  | pending, [] => finish pending
  | pending, byte :: rest =>
    let (text, pending) := feed pending byte.toNat
    text ++ decodeFrom pending rest

end AttributePrinter.Text.Lossy

namespace AttributePrinter.Text

/-- The text of `bytes`, with a replacement character for each part that is not UTF-8. -/
def ofBytes (bytes : Bytes) : Text :=
  Lossy.decodeFrom .nothing bytes

end AttributePrinter.Text
