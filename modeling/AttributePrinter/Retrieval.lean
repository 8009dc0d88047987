import AttributePrinter.Invocation
import AttributePrinter.SystemError.Basic

/-!
# Failures to retrieve an attribute

An attribute may not be set, the system may refuse the query, or the value may be larger than
the buffer. Every failure carries the bytes of the path and the name that were asked for; its
message shows them as text.
-/

namespace AttributePrinter

inductive RetrievalError where
  | missing (target : Invocation)
  | system (target : Invocation) (cause : SystemError)
  | tooLarge (target : Invocation) (length capacity : Nat)
  deriving DecidableEq, Repr

namespace RetrievalError

def target : RetrievalError → Invocation
  | .missing target => target
  | .system target _ => target
  | .tooLarge target _ _ => target

def cause? : RetrievalError → Option SystemError
  | .system _ cause => some cause
  | _ => none

def message : RetrievalError → String
  | .missing target => s!"attribute {target.shownName} is not set on {target.shownPath}"
  | .system target cause =>
    s!"could not get extended file attribute {target.shownName} of {target.shownPath}: " ++
      cause.message
  | .tooLarge target length capacity =>
    s!"attribute {target.shownName} of {target.shownPath} is {length} bytes but the buffer " ++
      s!"only holds {capacity}"

end RetrievalError

end AttributePrinter
