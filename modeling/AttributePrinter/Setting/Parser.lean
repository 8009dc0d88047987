import AttributePrinter.Setting.Escape
import AttributePrinter.Setting.Number

/-!
# The text of a setting

Reads a value from the front of a text. The first character behind the blanks decides which form
is tried, and a form that does not come to its end is not tried in another way. Lists and
dictionaries allow a comma behind their last member.

The readers of values, list items and dictionary entries call each other under a common count,
which `Value.ofText` starts high enough for every text: two calls in a row use up a character.
A text that is no value, or has something left behind its value, stands for itself.
-/

namespace AttributePrinter.Setting

/-- What was read and the rest of the text. -/
abbrev Reading (α : Type) := Except Flaw (α × Text)

def skipBlanks (text : Text) : Text :=
  text.dropWhile Text.isAsciiBlank

/-- Ends a bare text. -/
def isSeparator (c : Char) : Bool :=
  c == ',' || c == '{' || c == '}' || c == '[' || c == ']'

def isKeyChar (c : Char) : Bool :=
  c.isAlphanum || c == '_' || c == '-'

/-- Everything up to the first quote that no backslash stands before, and what is behind it. -/
def untilQuote? : Text → Option (Text × Text)
  | [] => none
  | '"' :: rest => some ([], rest)
  | '\\' :: c :: rest => (untilQuote? rest).map fun r => ('\\' :: c :: r.1, r.2)
  | c :: rest => (untilQuote? rest).map fun r => (c :: r.1, r.2)

/-- A quoted text behind its first quote. -/
def readQuoted (text : Text) : Reading Text :=
  match untilQuote? text with
  | none => .error .mismatch
  | some (inside, rest) => (Escape.decode inside).map fun t => (t, rest)

def readKey : Text → Reading Text
  | '"' :: rest => readQuoted rest
  | text =>
    match text.takeWhile isKeyChar with
    | [] => .error .mismatch
    | key => .ok (key, text.dropWhile isKeyChar)

/-- A key and the equals sign behind it, with blanks around the key. -/
def readKeySign (text : Text) : Reading Text :=
  match readKey (skipBlanks text) with
  | .error flaw => .error flaw
  | .ok (key, rest) =>
    match skipBlanks rest with
    | '=' :: rest => .ok (key, rest)
    | _ => .error .mismatch

/-- Blanks behind a value belong to it. -/
def beforeBlanks (r : Reading Value) : Reading Value :=
  r.map fun r => (r.1, skipBlanks r.2)

def readChar : Text → Reading Value
  | c :: '\'' :: rest => .ok (.char c, rest)
  | _ => .error .mismatch

def readBare (text : Text) : Value × Text :=
  (Value.ofBare (Text.trim (text.takeWhile (!isSeparator ·))), text.dropWhile (!isSeparator ·))

/-- The form that the front of a text announces, with the text behind what announces it; a truth
value and a bare text are there as a whole. -/
inductive Form where
  | whole (value : Value) (rest : Text)
  | quoted (rest : Text)
  | char (rest : Text)
  | list (rest : Text)
  | dict (rest : Text)

def formOf (text : Text) : Form :=
  match Text.behind? "true".toList text with
  | some rest => .whole (.bool true) rest
  | none =>
    match Text.behind? "false".toList text with
    | some rest => .whole (.bool false) rest
    | none =>
      match text with
      | '\x7B' :: rest => .dict rest
      | '[' :: rest => .list rest
      | '"' :: rest => .quoted rest
      | '\'' :: rest => .char rest
      | text => .whole (readBare text).1 (readBare text).2

mutual

def readValue : Nat → Text → Reading Value
  | 0, _ => .error .mismatch
  | count + 1, text =>
    beforeBlanks <| match formOf (skipBlanks text) with
    | .whole value rest => .ok (value, rest)
    | .quoted rest => (readQuoted rest).map fun r => (.text r.1, r.2)
    | .char rest => readChar rest
    | .list rest => (readItems count rest).map fun r => (.list r.1, r.2)
    | .dict rest => (readEntries count rest).map fun r => (.dict (Entries.ofList r.1), r.2)

def readItems : Nat → Text → Reading (List Value)
  | 0, _ => .error .mismatch
  | _ + 1, ']' :: rest => .ok ([], rest)
  | count + 1, text =>
    match readValue count text with
    | .error flaw => .error flaw
    | .ok (item, ',' :: rest) => (readItems count rest).map fun r => (item :: r.1, r.2)
    | .ok (item, ']' :: rest) => .ok ([item], rest)
    | .ok _ => .error .mismatch

def readEntries : Nat → Text → Reading (List (Text × Value))
  | 0, _ => .error .mismatch
  | _ + 1, '\x7D' :: rest => .ok ([], rest)
  | count + 1, text =>
    match readKeySign text with
    | .error flaw => .error flaw
    | .ok (key, rest) =>
      match readValue count rest with
      | .error flaw => .error flaw
      | .ok (value, ',' :: rest) =>
        (readEntries count rest).map fun r => ((key, value) :: r.1, r.2)
      | .ok (value, '\x7D' :: rest) => .ok ([(key, value)], rest)
      | .ok _ => .error .mismatch

end

/-- The value that a whole text stands for, or none if reading it breaks down. -/
def Value.ofText? (text : Text) : Option Value :=
  match readValue (2 * text.length + 3) text with
  | .ok (value, []) => some value
  | .ok (_, _ :: _) => some (.text text)
  | .error .mismatch => some (.text text)
  | .error .breakdown => none

end AttributePrinter.Setting
