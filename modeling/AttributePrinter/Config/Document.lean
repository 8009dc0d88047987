import AttributePrinter.Config.Basic
import AttributePrinter.Json

/-!
# Configurations as JSON

A configuration is written as an object of its two fields. It is read from such an object, which
may have other members, or from an array of the two values in order; a policy is its name, or an
object whose only member has that name and is null. The capacity is not checked against the
limits of a buffer here.
-/

namespace AttributePrinter.Config

/-- What decoding expects of a value. -/
inductive Expected where
  | config
  | capacity
  | policy
  | nothing
  deriving DecidableEq, Repr

def Expected.phrase : Expected → String
  | .config => "struct Config"
  | .capacity => "usize"
  | .policy => "string or map"
  | .nothing => "unit"

inductive DecodeError where
  | wrongType (found : Json) (expected : Expected)
  | negativeCapacity (i : Int)
  | unknownPolicy (name : Text)
  | notOneMember
  | tooShort (length : Nat)
  | tooLong (length : Nat)
  | missingField (key : Text)
  deriving Repr

def DecodeError.message : DecodeError → String
  | .wrongType found expected => s!"invalid type: {found.phrase}, expected {expected.phrase}"
  | .negativeCapacity i => s!"invalid value: integer `{i}`, expected {Expected.capacity.phrase}"
  | .unknownPolicy name =>
    "unknown variant `" ++ String.ofList name ++ "`, expected `legacy` or `strict`"
  | .notOneMember => "invalid value: map, expected map with a single key"
  | .tooShort length => s!"invalid length {length}, expected struct Config with 2 elements"
  | .tooLong length => s!"invalid length {length}, expected fewer elements in array"
  | .missingField key => "missing field `" ++ String.ofList key ++ "`"

def decodeCapacity : Json → Except DecodeError Nat
  | .integer i => if 0 ≤ i then .ok i.toNat else .error (.negativeCapacity i)
  | json => .error (.wrongType json .capacity)

def decodePolicyName (name : Text) : Except DecodeError Policy :=
  match Policy.ofName? name with
  | some policy => .ok policy
  | none => .error (.unknownPolicy name)

def decodePolicy : Json → Except DecodeError Policy
  | .text name => decodePolicyName name
  | .object [(name, value)] =>
    match decodePolicyName name, value with
    | .error error, _ => .error error
    | .ok policy, .null => .ok policy
    | .ok _, value => .error (.wrongType value .nothing)
  | .object _ => .error .notOneMember
  | json => .error (.wrongType json .policy)

/-- A member that is not there is no error yet. -/
def decodeMember {α : Type} (decode : Json → Except DecodeError α) :
    Option Json → Except DecodeError (Option α)
  | none => .ok none
  | some json => (decode json).map some

/-- The members that are there are decoded before one that is not is missed. -/
def decodeMembers (members : Json.Members) : Except DecodeError Config :=
  match decodeMember decodeCapacity (members.find? capacityKey) with
  | .error error => .error error
  | .ok capacity? =>
    match decodeMember decodePolicy (members.find? policyKey), capacity? with
    | .error error, _ => .error error
    | .ok _, none => .error (.missingField capacityKey)
    | .ok none, some _ => .error (.missingField policyKey)
    | .ok (some policy), some capacity => .ok { capacity, policy }

/-- Each element is decoded before the next is missed. -/
def decodeItems : List Json → Except DecodeError Config
  | [] => .error (.tooShort 0)
  | first :: rest =>
    match decodeCapacity first, rest with
    | .error error, _ => .error error
    | .ok _, [] => .error (.tooShort 1)
    | .ok capacity, second :: more =>
      match decodePolicy second, more with
      | .error error, _ => .error error
      | .ok policy, [] => .ok { capacity, policy }
      | .ok _, _ :: _ => .error (.tooLong (2 + more.length))

def decode : Json → Except DecodeError Config
  | .object members => decodeMembers members
  | .array items => decodeItems items
  | json => .error (.wrongType json .config)

def encode (config : Config) : Json :=
  .object [(capacityKey, .integer config.capacity), (policyKey, .text config.policy.name.toList)]

end AttributePrinter.Config
