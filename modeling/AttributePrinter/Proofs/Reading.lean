import AttributePrinter.Proofs.Replaying
import AttributePrinter.Reader

/-!
# How a run goes

A run takes one of four ways, and which one is settled by the answer to the query, the buffer as
the source left it, and the calls on the writer. No way depends on what the writer's state is. The
answers on record are the source's and the writer's own: the source is asked once, and the writer
gives its answers again if the calls are made once more.
-/

namespace AttributePrinter

/-- What a run comes to behind the query: its result and its calls, for an answer and for the
buffer as the source `left` it. -/
inductive Reads {capacity : Nat} (left : Buffer capacity) :
    Except RetrievalError Nat → Except OutputError Outcome → List Call → Prop where
  | unavailable (error : RetrievalError) : Reads left (.error error) (.ok (.unavailable error)) []
  | empty {n : Nat} (nothing : left.filled n = []) : Reads left (.ok n) (.ok .empty) []
  | printed {n : Nat} {before : List Call} (something : left.filled n ≠ [])
      (record : LineRecord (left.filled n) before (.flush none)) :
      Reads left (.ok n) (.ok (.printed (left.filled n).length)) (before ++ [.flush none])
  | failed {n : Nat} {before : List Call} {last : Call} {cause : SystemError}
      (something : left.filled n ≠ []) (record : LineRecord (left.filled n) before last)
      (fails : last.failure? = some cause) :
      Reads left (.ok n) (.error ⟨cause⟩) (before ++ [last])

namespace Reads

variable {capacity : Nat} {left : Buffer capacity} {answer : Except RetrievalError Nat}
  {result : Except OutputError Outcome} {calls : List Call}

theorem of_failed {cause : SystemError} (h : Reads left answer (.error ⟨cause⟩) calls) :
    ∃ n before last, answer = .ok n ∧ left.filled n ≠ [] ∧ calls = before ++ [last] ∧
      last.failure? = some cause ∧ LineRecord (left.filled n) before last := by
  cases h with
  | @failed n before last _ something record fails =>
    exact ⟨n, before, last, rfl, something, rfl, fails, record⟩

end Reads

section Present

variable {σ : Type} {capacity : Nat} (w : Writer σ) (s : σ) (target : Invocation)
  (buffer : Buffer capacity)

theorem present_empty {n : Nat} (nothing : buffer.filled n = []) :
    present w s target buffer (.ok n) = ⟨.ok .empty, buffer, s, [.note (.emptyValue target)]⟩ := by
  simp [present, nothing]

theorem present_printed {n : Nat} (something : buffer.filled n ≠ [])
    (h : (w.writeLine s (buffer.filled n)).error = none) :
    present w s target buffer (.ok n) =
      ⟨.ok (.printed (buffer.filled n).length), buffer, (w.writeLine s (buffer.filled n)).state,
        (w.writeLine s (buffer.filled n)).calls.map .call⟩ := by
  simp [present, something, h]

theorem present_failed {n : Nat} {cause : SystemError} (something : buffer.filled n ≠ [])
    (h : (w.writeLine s (buffer.filled n)).error = some cause) :
    present w s target buffer (.ok n) =
      ⟨.error ⟨cause⟩, buffer, (w.writeLine s (buffer.filled n)).state,
        (w.writeLine s (buffer.filled n)).calls.map .call⟩ := by
  simp [present, something, h]

/-- Notes are nothing to a view that leaves each of them out. -/
theorem filterMap_notes {α : Type} {view : Action → Option α}
    (silent : ∀ event, view (.note event) = none) (events : List Event) (actions : List Action) :
    (events.map Action.note ++ actions).filterMap view = actions.filterMap view := by
  induction events with
  | nil => rfl
  | cons event rest ih =>
    rw [List.map_cons, List.cons_append, List.filterMap_cons_none (silent event), ih]

theorem Run.calls_of_notes (run : Run σ capacity) (events : List Event) :
    Run.calls { run with actions := events.map .note ++ run.actions } = run.calls := by
  unfold Run.calls
  exact filterMap_notes (fun _ => rfl) events run.actions

theorem Run.calls_of_writes (result : Except OutputError Outcome) (calls : List Call) :
    (Run.mk result buffer s (calls.map .call)).calls = calls := by
  rw [Run.calls, List.filterMap_map]
  exact List.filterMap_some

theorem calls_present (n : Nat) :
    (present w s target buffer (.ok n)).calls =
      if buffer.filled n = [] then [] else (w.writeLine s (buffer.filled n)).calls := by
  simp only [present]
  split
  · rfl
  · exact Run.calls_of_writes ..

theorem present_replays (answer : Except RetrievalError Nat) :
    w.Replays s (present w s target buffer answer).calls
      (present w s target buffer answer).state := by
  cases answer with
  | error error => exact .start s
  | ok n =>
    rw [calls_present]
    simp only [present]
    split
    · exact .start s
    · exact w.replays_writeLine s (buffer.filled n)

theorem present_reads (answer : Except RetrievalError Nat) :
    Reads buffer answer (present w s target buffer answer).result
      (present w s target buffer answer).calls := by
  cases answer with
  | error error => exact .unavailable error
  | ok n =>
    by_cases something : buffer.filled n = []
    · rw [present_empty w s target buffer something]
      exact .empty something
    obtain ⟨before, last, hcalls, herror, record⟩ :=
      (w.writeLine_lineEnd s (buffer.filled n)).exists_record
    cases hend : (w.writeLine s (buffer.filled n)).error with
    | some cause =>
      rw [present_failed w s target buffer something hend, Run.calls_of_writes, hcalls]
      exact .failed something record (herror.trans hend)
    | none =>
      rw [present_printed w s target buffer something hend, Run.calls_of_writes, hcalls]
      have hlast : last = .flush none := by
        rw [hend] at herror
        cases last with
        | flush answer => exact congrArg Call.flush herror
        | write =>
          exact absurd herror (record.fails_or_isFlush.resolve_right (by simp [Call.isFlush]))
      subst hlast
      exact .printed something record

end Present

section ReadAttribute

variable {σ : Type} {capacity : Nat} (source : Source) (w : Writer σ) (s : σ)
  (target : Invocation) (buffer : Buffer capacity)

/-- Whatever state a source has, a run is the one on the answer that the source gives in it, and
leaves the source as this one query does. -/
theorem readAttributeFrom_eq {τ : Type} (source : StatefulSource τ) (t : τ) :
    readAttributeFrom source w t s target buffer =
      (readAttribute (fun target before => (source t target before).1) w s target buffer,
        (source t target buffer.bytes).2) := rfl

/-- Of a source it only matters how it answers for the target. -/
theorem readAttribute_congr {source other : Source} (same : source target = other target) :
    readAttribute source w s target buffer = readAttribute other w s target buffer := by
  simp only [readAttribute, readAttributeFrom, StatefulSource.ask, Source.stateless, same]

theorem actions_readAttribute :
    (readAttribute source w s target buffer).actions =
      .query target buffer.bytes :: ((source target buffer.bytes).events.map .note ++
        (present w s target (buffer.store 0 (source target buffer.bytes).copied)
          (source target buffer.bytes).answer).actions) := rfl

theorem calls_readAttribute :
    (readAttribute source w s target buffer).calls =
      (present w s target (buffer.store 0 (source target buffer.bytes).copied)
        (source target buffer.bytes).answer).calls :=
  Run.calls_of_notes (present w s target _ _) _

theorem result_readAttribute :
    (readAttribute source w s target buffer).result =
      (present w s target (buffer.store 0 (source target buffer.bytes).copied)
        (source target buffer.bytes).answer).result := rfl

theorem state_readAttribute :
    (readAttribute source w s target buffer).state =
      (present w s target (buffer.store 0 (source target buffer.bytes).copied)
        (source target buffer.bytes).answer).state := rfl

/-- The calls of a run are answered as the writer answers them. -/
theorem readAttribute_replays :
    w.Replays s (readAttribute source w s target buffer).calls
      (readAttribute source w s target buffer).state := by
  rw [calls_readAttribute, state_readAttribute]
  exact present_replays w s target _ _

theorem readAttribute_reads :
    Reads (buffer.store 0 (source target buffer.bytes).copied) (source target buffer.bytes).answer
      (readAttribute source w s target buffer).result
      (readAttribute source w s target buffer).calls := by
  rw [calls_readAttribute]
  exact present_reads w s target _ _

end ReadAttribute

end AttributePrinter
