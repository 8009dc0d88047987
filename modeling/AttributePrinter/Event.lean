import AttributePrinter.Retrieval

/-!
# Events

What the program notes down about a run besides its output. None of it goes to standard output.
-/

namespace AttributePrinter

inductive Event where
  | ignoredArguments (count : Nat)
  | querying (target : Invocation)
  | nothingToPrint (error : RetrievalError)
  | emptyValue (target : Invocation)
  deriving DecidableEq, Repr

namespace Event

/-- The events of a command line with `extra` arguments left over. -/
def ofExtra (extra : Nat) : List Event :=
  if extra = 0 then [] else [.ignoredArguments extra]

def level : Event → String
  | .querying _ => "TRACE"
  | _ => "DEBUG"

def text : Event → String
  | .ignoredArguments count => s!"ignoring {count} extra argument(s)"
  | .querying target => s!"querying {target.shownName} on {target.shownPath}"
  | .nothingToPrint error => s!"nothing to print: {error.message}"
  | .emptyValue target => s!"attribute {target.shownName} of {target.shownPath} is empty"

def line (event : Event) : String :=
  event.level ++ " " ++ event.text

end Event

end AttributePrinter
