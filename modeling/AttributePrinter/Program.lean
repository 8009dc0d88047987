import AttributePrinter.Config.Load
import AttributePrinter.FileTree.Attribute
import AttributePrinter.Reader
import AttributePrinter.Report

/-!
# The program

A whole run: load the configuration, read the arguments, print the attribute, and apply the exit
policy. The first stage that fails ends the run; its report goes to standard error and the exit
code is one. Settings that break down on being read end the run with a code of their own.
-/

namespace AttributePrinter.Program

/-- Standard output either takes everything or, on a full device, nothing. -/
inductive Stdout where
  | working
  | full
  deriving DecidableEq, Repr

def Stdout.script : Stdout → Script
  | .working => .accepting
  | .full => .refusing .noSpace

/-- What a run starts from; the arguments are those behind the program's name. -/
structure Start where
  source : Source
  arguments : List Bytes
  environment : Setting.Environment
  stdout : Stdout

/-- Why a run fails, by stage. -/
inductive Failure where
  | config (error : ConfigError)
  | arguments (missing : Argument)
  | output (error : OutputError)
  | unavailable (error : RetrievalError)
  deriving DecidableEq, Repr

def Failure.head : Failure → String
  | .config _ => "failed to load config"
  | .arguments _ => "invalid arguments"
  | .output _ => "failed to print attribute"
  | .unavailable _ => "attribute unavailable"

/-- The messages behind the head, the innermost error last. -/
def Failure.causes : Failure → List String
  | .config (.invalid error) => [(ConfigError.invalid error).message, error.message]
  | .config error => [error.message]
  | .arguments missing => [missing.missingMessage]
  | .output error => [error.message, error.cause.message]
  | .unavailable (.system target cause) =>
    [(RetrievalError.system target cause).message, cause.message]
  | .unavailable error => [error.message]

/-- How a run ends. -/
inductive Ending where
  | success
  | failure (why : Failure)
  | breakdown
  deriving DecidableEq, Repr

structure Result where
  ending : Ending
  output : Bytes
  events : List Event

/-- The program's own name, which nothing looks at. -/
def ownName : Bytes := []

/-- The stages behind the configuration. -/
def runWith (config : Config) (start : Start) : Result :=
  match Invocation.ofArguments (ownName :: start.arguments) with
  | .error missing => ⟨.failure (.arguments missing), [], []⟩
  | .ok (target, extra) =>
    let run := runOnce config.capacity start.source Script.writer start.stdout.script target
    let ending :=
      match run.result with
      | .error error => .failure (.output error)
      | .ok outcome =>
        match outcome.underPolicy config.policy with
        | .error error => .failure (.unavailable error)
        | .ok () => .success
    ⟨ending, run.output, Event.ofExtra extra ++ run.events⟩

def run (start : Start) : Result :=
  match Config.load start.environment with
  | .error .breakdown => ⟨.breakdown, [], []⟩
  | .error (.rejected error) => ⟨.failure (.config error), [], []⟩
  | .ok config => runWith config start

/-- The key of the variable that, set to `1`, asks for messages as they are. -/
def rawMessagesKey : Bytes := asciiBytes "SNAFU_RAW_ERROR_MESSAGES"

def wantsRawMessages (environment : Setting.Environment) : Bool :=
  environment.value? rawMessagesKey = some (asciiBytes "1")

def Ending.code : Ending → Nat
  | .success => 0
  | .failure _ => 1
  | .breakdown => 101

/-- What the runtime writes when a run breaks down. The text is its own affair; there is one. -/
structure Notice where
  text : Text
  nonempty : text ≠ []

def Notice.cutInside : Notice where
  text := "the text before an escape was cut inside a character\n".toList
  nonempty := mt String.toList_eq_nil_iff.mp (by decide)

/-- What goes to standard error; events go there only if they are asked for. -/
def Ending.report (raw : Bool) (ending : Ending) (notice : Notice := .cutInside) : Text :=
  match ending with
  | .success => []
  | .failure why =>
    "Error: ".toList ++ Report.render raw why.head.toList (why.causes.map String.toList) ++ ['\n']
  | .breakdown => notice.text

end AttributePrinter.Program
