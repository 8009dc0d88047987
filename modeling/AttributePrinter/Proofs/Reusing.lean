import AttributePrinter.Proofs.Querying
import AttributePrinter.Proofs.Reading

/-!
# Runs through one buffer

A run looks at the buffer twice: its source may, before it answers, and the run itself reads back
as many bytes as the answer says. Two runs with the same answer that read back the same bytes are
therefore seen alike, whatever else their buffers hold. If no source looks at the buffer or reports
bytes that it did not copy, each of several runs through one buffer is seen as if it had a fresh
buffer to itself.
-/

namespace AttributePrinter

/-- What can be seen of a run without its buffer. -/
structure Seen (σ : Type) where
  result : Except OutputError Outcome
  output : Bytes
  calls : List Call
  flushes : Nat
  events : List Event
  state : σ

variable {σ : Type} {capacity : Nat}

def Run.seen (run : Run σ capacity) : Seen σ where
  result := run.result
  output := run.output
  calls := run.calls
  flushes := run.flushes
  events := run.events
  state := run.state

theorem Run.seen_congr {run other : Run σ capacity} (result : run.result = other.result)
    (calls : run.calls = other.calls) (events : run.events = other.events)
    (state : run.state = other.state) : run.seen = other.seen := by
  simp only [seen, output, flushes, result, calls, events, state]

section Agreement

variable (w : Writer σ) (s : σ) (target : Invocation) {left other : Buffer capacity}
  {answer : Except RetrievalError Nat}

/-- Behind the query only the bytes that are read back count. -/
theorem present_agree (agree : ∀ n, answer = .ok n → left.filled n = other.filled n) :
    (present w s target left answer).result = (present w s target other answer).result ∧
      (present w s target left answer).state = (present w s target other answer).state ∧
      (present w s target left answer).actions = (present w s target other answer).actions := by
  cases answer with
  | error error => exact ⟨rfl, rfl, rfl⟩
  | ok n =>
    have same : left.filled n = other.filled n := agree n rfl
    by_cases something : other.filled n = []
    · rw [present_empty w s target left (same.trans something),
        present_empty w s target other something]
      exact ⟨rfl, rfl, rfl⟩
    · cases hend : (w.writeLine s (other.filled n)).error with
      | none =>
        rw [present_printed w s target left (by rwa [same]) (by rwa [same]),
          present_printed w s target other something hend, same]
        exact ⟨rfl, rfl, rfl⟩
      | some cause =>
        rw [present_failed w s target left (by rwa [same]) (by rwa [same]),
          present_failed w s target other something hend, same]
        exact ⟨rfl, rfl, rfl⟩

end Agreement

theorem Run.events_of_notes (run : Run σ capacity) (events : List Event) :
    Run.events { run with actions := events.map .note ++ run.actions } = events ++ run.events := by
  induction events with
  | nil => rfl
  | cons event rest ih => exact congrArg (event :: ·) ih

theorem events_readAttribute (source : Source) (w : Writer σ) (s : σ) (target : Invocation)
    (buffer : Buffer capacity) :
    (readAttribute source w s target buffer).events =
      (source target buffer.bytes).events ++
        (present w s target (buffer.store 0 (source target buffer.bytes).copied)
          (source target buffer.bytes).answer).events :=
  Run.events_of_notes (present w s target _ _) _

/-- Two runs with the same answer are seen alike if they read back the same bytes. -/
theorem readAttribute_agree {source other : Source} {w : Writer σ} {s : σ} {target : Invocation}
    {buffer changed : Buffer capacity}
    (answer : (other target changed.bytes).answer = (source target buffer.bytes).answer)
    (events : (other target changed.bytes).events = (source target buffer.bytes).events)
    (agree : ∀ n, (source target buffer.bytes).answer = .ok n → ∀ i < min n capacity,
      (changed.store 0 (other target changed.bytes).copied).bytes[i]? =
        (buffer.store 0 (source target buffer.bytes).copied).bytes[i]?) :
    (readAttribute other w s target changed).seen =
      (readAttribute source w s target buffer).seen := by
  obtain ⟨hresult, hstate, hactions⟩ := present_agree w s target
    fun n hn => Buffer.filled_congr (agree n hn)
  apply Run.seen_congr
  · rw [result_readAttribute, result_readAttribute, answer, hresult]
  · rw [calls_readAttribute, calls_readAttribute, answer, Run.calls, hactions]
    rfl
  · rw [events_readAttribute, events_readAttribute, answer, events, Run.events, hactions]
    rfl
  · rw [state_readAttribute, state_readAttribute, answer, hstate]

/-- The source of the step gives one reply, whatever the buffer holds, and reports no more bytes
than it copied, as far as the buffer has room for them. -/
def Step.Honest (capacity : Nat) (step : Step σ) : Prop :=
  ∃ reply, (∀ before : Buffer capacity, step.source step.target before.bytes = reply) ∧
    ∀ n, reply.answer = .ok n → min n capacity ≤ reply.copied.length

theorem Step.Honest.seen_eq {step : Step σ} (honest : step.Honest capacity)
    (buffer other : Buffer capacity) :
    (readAttribute step.source step.writer step.state step.target buffer).seen =
      (readAttribute step.source step.writer step.state step.target other).seen := by
  obtain ⟨reply, hreply, honest⟩ := honest
  apply readAttribute_agree
  · rw [hreply, hreply]
  · rw [hreply, hreply]
  · -- Every byte that is read back was copied just now, so neither buffer's own bytes show.
    intro n answered i hi
    rw [hreply] at answered
    have hcopied : i < reply.copied.length := Nat.lt_of_lt_of_le hi (honest n answered)
    have hroom : i < capacity := Nat.lt_of_lt_of_le hi (Nat.min_le_right n capacity)
    rw [hreply, hreply, buffer.getElem?_store_start _ hroom, other.getElem?_store_start _ hroom,
      List.getElem?_eq_getElem hcopied, Option.some_or, Option.some_or]

/-- Looking up is honest: what is copied is what is reported. -/
theorem Step.honest_of_lookup {step : Step σ} {lookup : Lookup}
    (h : step.source = .ofLookup lookup) (capacity : Nat) : step.Honest capacity := by
  refine ⟨Source.ofLookup lookup step.target (Buffer.zeroed capacity).bytes, fun before => ?_,
    fun n answered => ?_⟩
  · rw [h, Source.ofLookup, Source.ofLookup, before.length_eq, (Buffer.zeroed capacity).length_eq]
  · have answers := Source.ofLookup_answers lookup step.target (Buffer.zeroed capacity)
    obtain ⟨value, hfound, hfits, hlength⟩ := answers.ok_iff.mp answered
    rw [answers.copied_of_fits hfound hfits, hlength]
    exact Nat.min_le_left value.length capacity

/-- Of several runs through one buffer, whatever it held at first, each is seen as it would be with
a fresh buffer to itself. It does not matter how the runs before it went, nor what they left. -/
theorem readInTurn_seen_fresh (buffer : Buffer capacity) (steps : List (Step σ))
    (honest : ∀ step ∈ steps, step.Honest capacity) :
    (readInTurn buffer steps).map Run.seen =
      steps.map fun step =>
        (runOnce capacity step.source step.writer step.state step.target).seen := by
  induction steps generalizing buffer with
  | nil => rfl
  | cons step rest ih =>
    have hrest := ih (readAttribute step.source step.writer step.state step.target buffer).buffer
      fun later hlater => honest later (List.mem_cons_of_mem step hlater)
    have hstep := (honest step List.mem_cons_self).seen_eq buffer (Buffer.zeroed capacity)
    rw [readInTurn, List.map_cons, List.map_cons, hstep, hrest]
    rfl

/-- A step whose source copies `value` and reports `length` bytes. -/
def reportingStep (value : Bytes) (length : Nat) (script : Script) : Step Script where
  target := ⟨asciiBytes "f", asciiBytes "user.note"⟩
  source _ _ := { copied := value, answer := .ok length }
  writer := Script.writer
  state := script

theorem reportingStep_honest {value : Bytes} {length : Nat} (h : length ≤ value.length)
    (capacity : Nat) (script : Script) : (reportingStep value length script).Honest capacity := by
  refine ⟨_, fun _ => rfl, fun n answered => ?_⟩
  cases answered
  exact Nat.le_trans (Nat.min_le_left length capacity) h

/-- A step whose attribute is not set. -/
def missingStep : Step Script where
  target := ⟨asciiBytes "f", asciiBytes "user.other"⟩
  source := .ofLookup fun _ _ => .ok none
  writer := Script.writer
  state := .accepting

/-- A long value, one whose writer fails inside it, none at all, and a short one behind which the
others would show. -/
theorem short_value_shown_alone :
    let steps := [reportingStep (asciiBytes "hello") 5 .accepting,
      reportingStep (asciiBytes "bye") 3 { budget := some 2 }, missingStep,
      reportingStep (asciiBytes "hi") 2 .accepting]
    (readInTurn (Buffer.zeroed 8) steps).map Run.seen =
        steps.map (fun step =>
          (runOnce 8 step.source step.writer step.state step.target).seen) ∧
      (readInTurn (Buffer.zeroed 8) steps).map Run.output =
        [asciiBytes "hello\n", asciiBytes "by", [], asciiBytes "hi\n"] := by
  intro steps
  have hlookup : missingStep.source = .ofLookup fun _ _ => .ok none := rfl
  have honest : ∀ step ∈ steps, step.Honest 8 := by
    intro step hstep
    simp only [steps, List.mem_cons, List.not_mem_nil, or_false] at hstep
    rcases hstep with rfl | rfl | rfl | rfl
    · exact reportingStep_honest (Nat.le_refl 5) 8 _
    · exact reportingStep_honest (Nat.le_refl 3) 8 _
    · exact Step.honest_of_lookup hlookup 8
    · exact reportingStep_honest (Nat.le_refl 2) 8 _
  refine ⟨readInTurn_seen_fresh (Buffer.zeroed 8) steps honest, ?_⟩
  cbv

end AttributePrinter
