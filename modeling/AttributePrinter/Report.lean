import AttributePrinter.Text.Blank

/-!
# Error reports

A report names what failed and lists the causes, the outermost first. A message often ends with
the message of its own cause; such an ending is cut off, since the next line says it again, and
with it the blanks and then the colons that led up to it. Messages that lost something are
marked, those that have nothing left are dropped, and a note says so. The last cause is never cut.
-/

namespace AttributePrinter.Report

/-- The text before `ending`, if it ends so. -/
def before? (ending text : Text) : Option Text :=
  (Text.behind? ending.reverse text.reverse).map List.reverse

/-- Every repetition of `ending` at the end is gone; an empty one changes nothing. The count
bounds the repetitions. -/
def dropEndings (ending : Text) : Nat → Text → Text
  | 0, text => text
  | count + 1, text =>
    if ending = [] then text
    else match before? ending text with
      | none => text
      | some rest => dropEndings ending count rest

def dropColons (text : Text) : Text :=
  (text.reverse.dropWhile (· = ':')).reverse

/-- The message without what its cause says again. -/
def withoutCause (cause message : Text) : Text :=
  dropColons (Text.trimEnd (dropEndings cause message.length message))

/-- The messages of a chain as they are shown, each with the word whether it was cut. -/
def cleaned : List Text → List (Text × Bool)
  | [] => []
  | [last] => [(last, false)]
  | message :: cause :: rest =>
    let shown := withoutCause cause message
    (shown, shown.length != message.length) :: cleaned (cause :: rest)

def marked (message : Text × Bool) : Text :=
  if message.2 then message.1 ++ " *".toList else message.1

def causesHeading : List Text → Text
  | [] => []
  | [_] => "\nCaused by this error:\n".toList
  | _ => "\nCaused by these errors (recent errors listed first):\n".toList

/-- The number of a cause, counted from one, in three columns. -/
def numbered (index : Nat) (cause : Text) : Text :=
  let number := (toString (index + 1)).toList
  List.replicate (3 - number.length) ' ' ++ number ++ ": ".toList ++ cause ++ ['\n']

/-- The note on marked messages. -/
def note : Text :=
  ("\nNOTE: Some redundant information has been removed from the lines marked with *. " ++
    "Set SNAFU_RAW_ERROR_MESSAGES=1 to disable this behavior.\n").toList

/-- The note if messages were dropped and none is marked. -/
def noteOnDropped : Text :=
  ("\nNOTE: Some redundant information has been removed. " ++
    "Set SNAFU_RAW_ERROR_MESSAGES=1 to disable this behavior.\n").toList

/-- The head and the causes. -/
def lines (head : Text) (causes : List Text) : Text :=
  head ++ ['\n'] ++ causesHeading causes ++ (causes.mapIdx numbered).flatten

/-- The note on a chain of messages of which the `visible` ones are shown. -/
def noteOn (shown visible : List (Text × Bool)) : Text :=
  if visible.any (·.2) then note
  else if visible.length < shown.length then noteOnDropped
  else []

/-- The report of a chain of messages, the head first. If messages are not wanted as they are, the
first one that is left takes the place of the head, and there is no report if none is. -/
def render (raw : Bool) (head : Text) (causes : List Text) : Text :=
  if raw then lines head causes
  else
    let shown := cleaned (head :: causes)
    let visible := shown.filter (·.1 ≠ [])
    match visible.map marked with
    | [] => []
    | head :: causes => lines head causes ++ noteOn shown visible

end AttributePrinter.Report
