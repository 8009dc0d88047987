import AttributePrinter.Text.Lossy

/-!
# Invocations

An invocation names a file and one of its attributes. Both are taken from the command line as
they stand: an empty path or name is an argument like any other, and only a missing one is
refused. Arguments behind the two are counted and otherwise without effect.
-/

namespace AttributePrinter

def usage : String :=
  "usage: getxattr <path> <attribute-name>"

structure Invocation where
  path : Bytes
  name : Bytes
  deriving DecidableEq, Repr

inductive Argument where
  | path
  | name
  deriving DecidableEq, Repr

def Argument.placeholder : Argument → String
  | .path => "<path>"
  | .name => "<attribute-name>"

/-- The message for a command line without this argument. -/
def Argument.missingMessage (argument : Argument) : String :=
  s!"missing argument {argument.placeholder}\n{usage}"

namespace Invocation

/-- The invocation of a whole argument vector, the program's own name first, and the number of
arguments left over. -/
def ofArguments : List Bytes → Except Argument (Invocation × Nat)
  | [] | [_] => .error .path
  | [_, _] => .error .name
  | _ :: path :: name :: extra => .ok (⟨path, name⟩, extra.length)

def shownPath (target : Invocation) : String :=
  String.ofList (Text.ofBytes target.path)

def shownName (target : Invocation) : String :=
  String.ofList (Text.ofBytes target.name)

/-- Two arguments behind the program's name are what it takes. -/
theorem ofArguments_isOk_iff (arguments : List Bytes) :
    (ofArguments arguments).isOk = true ↔ 3 ≤ arguments.length := by
  unfold ofArguments
  split <;> simp [Except.isOk, Except.toBool]

end Invocation

end AttributePrinter
