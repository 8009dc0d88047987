import AttributePrinter.Decimal.Style
import AttributePrinter.Text.Quoted

/-!
# JSON values

A JSON value as decoding sees it: whole numbers and fractions are told apart by how they were
written, and an object has each of its keys once.
-/

namespace AttributePrinter

inductive Json where
  | null
  | bool (b : Bool)
  | integer (i : Int)
  | fraction (x : Binary64)
  | text (t : Text)
  | array (items : List Json)
  | object (members : List (Text × Json))
  deriving Repr

namespace Json

abbrev Members := List (Text × Json)

def Members.find? (members : Members) (key : Text) : Option Json :=
  (List.find? (fun m => m.1 = key) members).map (·.2)

/-- Of members with the same key only the last is left. -/
def Members.lastOfEach : Members → Members
  | [] => []
  | (key, value) :: rest =>
    if rest.any (fun m => m.1 = key) then lastOfEach rest
    else (key, value) :: lastOfEach rest

def ofMembers (members : Members) : Json :=
  .object members.lastOfEach

/-- The numbers from 0.00001 up to ten million billions are written with their point in place,
whole ones among them with a zero behind it. -/
def fractionStyle : Decimal.Style where
  positional place := -5 < place && place ≤ 16
  wholeSuffix := ".0"
  tie := .even

/-- What a value is called where another was expected. -/
def phrase : Json → String
  | .null => "null"
  | .bool b => s!"boolean `{b}`"
  | .integer i => s!"integer `{i}`"
  | .fraction x => "floating point `" ++ fractionStyle.write x ++ "`"
  | .text t => "string " ++ String.ofList (Text.quoted t)
  | .array _ => "sequence"
  | .object _ => "map"

end Json

end AttributePrinter
