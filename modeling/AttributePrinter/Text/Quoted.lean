import AttributePrinter.Text.Printable

/-!
# Quoted text

A text between double quotes in which everything shows: the quote, the backslash and four
controls have short escapes, and any other character that would not show on its own is written
by its code in hexadecimal between braces.
-/

namespace AttributePrinter.Text

def hexDigits (n : Nat) : Text :=
  Nat.toDigits 16 n

def quotedChar (c : Char) : Text :=
  if c = '\x00' then ['\\', '0']
  else if c = '\t' then ['\\', 't']
  else if c = '\r' then ['\\', 'r']
  else if c = '\n' then ['\\', 'n']
  else if c = '"' then ['\\', '"']
  else if c = '\\' then ['\\', '\\']
  else if showsAlone c then [c]
  else ['\\', 'u', '\x7B'] ++ hexDigits c.toNat ++ ['\x7D']

def quoted (text : Text) : Text :=
  '"' :: text.flatMap quotedChar ++ ['"']

end AttributePrinter.Text
