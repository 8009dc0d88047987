import AttributePrinter.Setting.Parser
import AttributePrinter.Text.Lossy

/-!
# The environment as settings

A variable contributes to the settings if its key, blanks at the ends aside, starts with
`GETXATTR_` in any case. What follows, in lower case, is a path of keys between points, and a
variable with an empty key in its path contributes nothing. The settings are the contributions
merged in the order of the environment.
-/

namespace AttributePrinter.Setting

structure Variable where
  key : Bytes
  value : Bytes
  deriving DecidableEq, Repr

abbrev Environment := List Variable

/-- The value of a variable is that of the first entry with its key. -/
def Environment.value? (env : Environment) (key : Bytes) : Option Bytes :=
  (env.find? (·.key = key)).map (·.value)

/-- In the order of the keys' bytes. -/
def Environment.sorted (env : Environment) : Environment :=
  env.mergeSort fun a b => !decide (b.key < a.key)

/-- A variable from its entry `key=value` in an environment block. The first byte belongs to the
key even if it is the equals sign. -/
def Variable.ofEntry? : Bytes → Option Variable
  | [] => none
  | first :: rest =>
    let equals : UInt8 := 61
    match rest.dropWhile (· ≠ equals) with
    | [] => none
    | _ :: value => some ⟨first :: rest.takeWhile (· ≠ equals), value⟩

/-- The variables of an environment block, whose entries end with a zero byte each. -/
def Environment.ofBlock (block : Bytes) : Environment :=
  (Text.pieces 0 block).filterMap Variable.ofEntry?

/-- In lower case; a key may start with it in any case. -/
def keyStart : Text :=
  "getxattr_".toList

def behindKeyStart? (key : Text) : Option Text :=
  if Text.lower (key.take keyStart.length) = keyStart then some (key.drop keyStart.length)
  else none

/-- The path of keys that a variable contributes to, if it contributes. -/
def Variable.path? (v : Variable) : Option (List Text) :=
  (behindKeyStart? (Text.trim (Text.ofBytes v.key))).bind fun rest =>
    let path := Text.pieces '.' (Text.lower (Text.trim rest))
    if path.any (· = []) then none else some path

def Variable.read? (v : Variable) : Option Value :=
  Value.ofText? (Text.ofBytes v.value)

structure Contribution where
  path : List Text
  value : Value

/-- What each contributing variable says, in order, unless reading one of them breaks down. -/
def Environment.contributions? : Environment → Option (List Contribution)
  | [] => some []
  | v :: rest =>
    match v.path? with
    | none => contributions? rest
    | some path =>
      v.read?.bind fun value => (contributions? rest).map (⟨path, value⟩ :: ·)

/-- Lays a contribution over the settings so far. -/
def Contribution.over (settings : Value) (c : Contribution) : Value :=
  settings.merge (nest c.path c.value)

/-- The settings are a dictionary, since no path is empty. -/
def Environment.settings? (env : Environment) : Option Entries :=
  (contributions? env).map fun contributions =>
    match contributions.foldl Contribution.over (.dict []) with
    | .dict entries => entries
    | _ => []

end AttributePrinter.Setting
