/-!
# Exit policies

How a run that could not retrieve the attribute ends: like any other run, or as a failure.
-/

namespace AttributePrinter

inductive Policy where
  | legacy
  | strict
  deriving DecidableEq, Repr

namespace Policy

/-- The name in variables and documents. -/
def name : Policy → String
  | .legacy => "legacy"
  | .strict => "strict"

/-- The name in the description of a configuration. -/
def title : Policy → String
  | .legacy => "Legacy"
  | .strict => "Strict"

def ofName? (name : List Char) : Option Policy :=
  if name = "legacy".toList then some .legacy
  else if name = "strict".toList then some .strict
  else none

theorem ofName?_eq_some_iff {text : List Char} {policy : Policy} :
    ofName? text = some policy ↔ text = policy.name.toList := by
  constructor
  · intro h
    unfold ofName? at h
    split at h
    · cases h
      assumption
    · split at h
      · cases h
        assumption
      · cases h
  · rintro rfl
    cases policy <;> decide

end Policy

end AttributePrinter
