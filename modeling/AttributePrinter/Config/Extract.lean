import AttributePrinter.Config.Basic
import AttributePrinter.Setting.Environment

/-!
# A configuration from settings

Each field takes the setting under its key and keeps its default if there is none; settings
under other keys have no effect. A capacity is a whole number that is not negative. A policy is
named by a text; a dictionary would name it by its first key, but then the key would have to
stand for nothing, and no setting does. An error tells the path of keys to the setting at fault.
-/

namespace AttributePrinter.Setting

/-- What a setting turned out to be; a character counts as a text. -/
inductive Found where
  | bool (b : Bool)
  | natural (n : Nat)
  | integer (i : Int)
  | fraction (x : Binary64)
  | text (t : Text)
  | sequence
  | map
  deriving DecidableEq, Repr

/-- Fractions are written with their point in place and whole ones without a point. -/
def fractionStyle : Decimal.Style where
  positional _ := true
  wholeSuffix := ""
  tie := .up

def Value.found : Value → Found
  | .bool b => .bool b
  | .natural n => .natural n
  | .integer i => .integer i
  | .fraction x => .fraction x
  | .char c => .text [c]
  | .text t => .text t
  | .list _ => .sequence
  | .dict _ => .map

def Found.phrase : Found → String
  | .bool b => s!"bool {b}"
  | .natural n => s!"unsigned int `{n}`"
  | .integer i => s!"signed int `{i}`"
  | .fraction x => "float `" ++ fractionStyle.write x ++ "`"
  | .text t => "string " ++ String.ofList (Text.quoted t)
  | .sequence => "sequence"
  | .map => "map"

/-- What a setting should have been: a capacity, a policy, the one name of a policy, or the
nothing that a name in a dictionary should stand for. -/
inductive Wanted where
  | capacity
  | policy
  | name
  | nothing
  deriving DecidableEq, Repr

def Wanted.phrase : Wanted → String
  | .capacity => "usize"
  | .policy => "enum ExitPolicy"
  | .name => "enum"
  | .nothing => "unit"

inductive Problem where
  | wrongType (found : Found) (wanted : Wanted)
  | wrongValue (found : Found) (wanted : Wanted)
  | unknownPolicy (name : Text)
  deriving DecidableEq, Repr

def Problem.message : Problem → String
  | .wrongType found wanted => s!"invalid type: found {found.phrase}, expected {wanted.phrase}"
  | .wrongValue found wanted => s!"invalid value {found.phrase}, expected {wanted.phrase}"
  | .unknownPolicy name =>
    "unknown variant: found `" ++ String.ofList name ++ "`, expected ``legacy` or `strict``"

structure Error where
  path : List Text
  problem : Problem
  deriving DecidableEq, Repr

/-- The path in capitals, with points between the keys, as one quoted text. -/
def Error.message (error : Error) : String :=
  let path := Text.upper (List.intercalate ['.'] error.path)
  error.problem.message ++ " for key " ++ String.ofList (Text.quoted path) ++
    " in `GETXATTR_` environment variable(s)"

def capacityOf : Value → Except Error Nat
  | .natural n => .ok n
  | .integer i =>
    if 0 ≤ i then .ok i.toNat
    else .error ⟨[Config.capacityKey], .wrongValue (.integer i) .capacity⟩
  | value => .error ⟨[Config.capacityKey], .wrongType value.found .capacity⟩

def policyOf : Value → Except Error Policy
  | .text t =>
    match Policy.ofName? t with
    | some policy => .ok policy
    | none => .error ⟨[Config.policyKey], .unknownPolicy t⟩
  | .dict [] => .error ⟨[Config.policyKey], .wrongType .map .name⟩
  | .dict ((key, value) :: _) =>
    match Policy.ofName? key with
    | some _ => .error ⟨[Config.policyKey, key], .wrongType value.found .nothing⟩
    | none => .error ⟨[Config.policyKey, key], .unknownPolicy key⟩
  | value => .error ⟨[Config.policyKey], .wrongType value.found .policy⟩

def orStandard {α : Type} (standard : α) (read : Value → Except Error α) :
    Option Value → Except Error α
  | none => .ok standard
  | some value => read value

/-- The capacity is looked at first. -/
def Entries.config (settings : Entries) : Except Error Config :=
  match orStandard Config.standard.capacity capacityOf (settings.find? Config.capacityKey) with
  | .error error => .error error
  | .ok capacity =>
    match orStandard Config.standard.policy policyOf (settings.find? Config.policyKey) with
    | .error error => .error error
    | .ok policy => .ok { capacity, policy }

end AttributePrinter.Setting
