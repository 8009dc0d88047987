import AttributePrinter.Buffer
import AttributePrinter.Event

/-!
# Sources

A source answers a query for an attribute with the bytes that it copies to the start of the
buffer and either a length or an error. Nothing ties the length to the bytes copied: a source
may report more than it copied, or more than the buffer holds. A lookup answers honestly, with
the whole value or with the reason why there is none.

Sources have no state to change as a rule. One that has may answer the same query differently the
next time, and its state tells what it was asked.
-/

namespace AttributePrinter

/-- What comes back from a query, with the events that the source noted on the way. -/
structure Reply where
  copied : Bytes
  answer : Except RetrievalError Nat
  events : List Event := []

/-- The bytes that the buffer holds before the query are there to be seen by the source. -/
abbrev Source :=
  Invocation → Bytes → Reply

/-- A source whose state the query may change. -/
abbrev StatefulSource (τ : Type) :=
  τ → Invocation → Bytes → Reply × τ

def Source.stateless (source : Source) : StatefulSource Unit :=
  fun _ target before => (source target before, ())

/-- What a system has under a name at a path, if anything, or its error. -/
abbrev Lookup :=
  Bytes → Bytes → Except SystemError (Option Bytes)

namespace Reply

def refusal (error : RetrievalError) : Reply :=
  { copied := [], answer := .error error }

/-- As much of `value` as fits, and a length that need not be its own. -/
def reporting (value : Bytes) (length capacity : Nat) : Reply :=
  { copied := value.take capacity, answer := .ok length }

/-- The reply for the result of looking an attribute up: an error of the system, nothing, or a
value. A value that does not fit is not copied in part. -/
def ofLookup (target : Invocation) (capacity : Nat) :
    Except SystemError (Option Bytes) → Reply
  | .error cause => refusal (.system target cause)
  | .ok none => refusal (.missing target)
  | .ok (some value) =>
    if value.length ≤ capacity then { copied := value, answer := .ok value.length }
    else refusal (.tooLarge target value.length capacity)

theorem ofLookup_fits {target : Invocation} {capacity : Nat} {value : Bytes}
    (h : value.length ≤ capacity) :
    ofLookup target capacity (.ok (some value)) =
      { copied := value, answer := .ok value.length } := by
  simp [ofLookup, h]

theorem ofLookup_exceeds {target : Invocation} {capacity : Nat} {value : Bytes}
    (h : capacity < value.length) :
    ofLookup target capacity (.ok (some value)) =
      refusal (.tooLarge target value.length capacity) := by
  simp [ofLookup, Nat.not_le.mpr h]

end Reply

/-- The source that looks every attribute up and notes each query. -/
def Source.ofLookup (lookup : Lookup) : Source :=
  fun target before =>
    { Reply.ofLookup target before.length (lookup target.path target.name) with
      events := [.querying target] }

end AttributePrinter
