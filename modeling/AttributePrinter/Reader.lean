import AttributePrinter.Policy
import AttributePrinter.Source
import AttributePrinter.Writer.Script

/-!
# Printing an attribute

One query through a source, and if the value is not empty, the value and a newline through a
writer. A failed query is an outcome like any other and says why nothing was written; only a
writer that fails makes the run itself fail. A run records what it did in order: the query, the
events, the calls on the writer. The query goes on record by being asked, as a call does by being
made.
-/

namespace AttributePrinter

inductive Outcome where
  | printed (length : Nat)
  | empty
  | unavailable (error : RetrievalError)
  deriving DecidableEq, Repr

/-- Under the strict policy an attribute that is unavailable is an error; an empty one never. -/
def Outcome.underPolicy : Outcome → Policy → Except RetrievalError Unit
  | .unavailable error, .strict => .error error
  | _, _ => .ok ()

/-- The writer failed. -/
structure OutputError where
  cause : SystemError
  deriving DecidableEq, Repr

def OutputError.message (error : OutputError) : String :=
  "could not write attribute value to output: " ++ error.cause.message

inductive Action where
  | query (target : Invocation) (before : Bytes)
  | note (event : Event)
  | call (call : Call)
  deriving DecidableEq, Repr

structure Run (σ : Type) (capacity : Nat) where
  result : Except OutputError Outcome
  buffer : Buffer capacity
  state : σ
  actions : List Action

namespace Run

variable {σ : Type} {capacity : Nat}

def queries (run : Run σ capacity) : List (Invocation × Bytes) :=
  run.actions.filterMap fun
    | .query target before => some (target, before)
    | _ => none

def events (run : Run σ capacity) : List Event :=
  run.actions.filterMap fun
    | .note event => some event
    | _ => none

def calls (run : Run σ capacity) : List Call :=
  run.actions.filterMap fun
    | .call call => some call
    | _ => none

/-- The bytes that the writer took. -/
def output (run : Run σ capacity) : Bytes :=
  Calls.taken run.calls

def flushes (run : Run σ capacity) : Nat :=
  run.calls.countP Call.isFlush

end Run

/-- What comes back from asking a source: its reply, its state behind the query, and what goes on
record. -/
structure Asked (τ : Type) where
  reply : Reply
  state : τ
  actions : List Action

def StatefulSource.ask {τ : Type} (source : StatefulSource τ) (t : τ) (target : Invocation)
    (before : Bytes) : Asked τ :=
  let (reply, t') := source t target before
  ⟨reply, t', .query target before :: reply.events.map .note⟩

/-- What a run ends with once the query is answered and its bytes are in the buffer. -/
def present {σ : Type} {capacity : Nat} (w : Writer σ) (s : σ) (target : Invocation)
    (buffer : Buffer capacity) (answer : Except RetrievalError Nat) : Run σ capacity :=
  match answer with
  | .error error => ⟨.ok (.unavailable error), buffer, s, [.note (.nothingToPrint error)]⟩
  | .ok length =>
    let value := buffer.filled length
    if value = [] then ⟨.ok .empty, buffer, s, [.note (.emptyValue target)]⟩
    else
      let written := w.writeLine s value
      let result :=
        match written.error with
        | some cause => .error ⟨cause⟩
        | none => .ok (.printed value.length)
      ⟨result, buffer, written.state, written.calls.map .call⟩

/-- Asks `source` once, with the buffer as it is, and prints what it answers. The state is that in
which the source is left. -/
def readAttributeFrom {σ τ : Type} {capacity : Nat} (source : StatefulSource τ) (w : Writer σ)
    (t : τ) (s : σ) (target : Invocation) (buffer : Buffer capacity) : Run σ capacity × τ :=
  let asked := source.ask t target buffer.bytes
  let run := present w s target (buffer.store 0 asked.reply.copied) asked.reply.answer
  ({ run with actions := asked.actions ++ run.actions }, asked.state)

/-- A run of its own, with a fresh buffer. -/
def runOnceFrom {σ τ : Type} (capacity : Nat) (source : StatefulSource τ) (w : Writer σ) (t : τ)
    (s : σ) (target : Invocation) : Run σ capacity × τ :=
  readAttributeFrom source w t s target (Buffer.zeroed capacity)

def readAttribute {σ : Type} {capacity : Nat} (source : Source) (w : Writer σ) (s : σ)
    (target : Invocation) (buffer : Buffer capacity) : Run σ capacity :=
  (readAttributeFrom source.stateless w () s target buffer).1

def runOnce {σ : Type} (capacity : Nat) (source : Source) (w : Writer σ) (s : σ)
    (target : Invocation) : Run σ capacity :=
  readAttribute source w s target (Buffer.zeroed capacity)

/-- One of several runs through the same buffer. -/
structure Step (σ : Type) where
  target : Invocation
  source : Source
  writer : Writer σ
  state : σ

/-- The runs of `steps` in turn; each finds the buffer as the one before left it. -/
def readInTurn {σ : Type} {capacity : Nat} :
    Buffer capacity → List (Step σ) → List (Run σ capacity)
  | _, [] => []
  | buffer, step :: rest =>
    let run := readAttribute step.source step.writer step.state step.target buffer
    run :: readInTurn run.buffer rest

end AttributePrinter
