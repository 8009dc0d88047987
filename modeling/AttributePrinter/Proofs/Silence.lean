import AttributePrinter.Proofs.Retaining

/-!
# Silent runs

A run without a value to print leaves its writer alone, whatever the writer would have answered. It
notes why there is nothing, and the policy turns it into a failure only if the query failed. A run
with a value calls the writer and notes nothing of its own.
-/

namespace AttributePrinter

variable {σ : Type} {capacity : Nat}

/-- The outcome and the note of a run that gets an answer without a value. -/
inductive Silent (target : Invocation) (capacity : Nat) :
    Except RetrievalError Nat → Outcome → Event → Prop where
  | unavailable (error : RetrievalError) :
      Silent target capacity (.error error) (.unavailable error) (.nothingToPrint error)
  | empty {n : Nat} (nothing : min n capacity = 0) :
      Silent target capacity (.ok n) .empty (.emptyValue target)

/-- An answer has no value, or a value of which the buffer holds something. -/
theorem silent_or_value (target : Invocation) (capacity : Nat)
    (answer : Except RetrievalError Nat) :
    (∃ outcome event, Silent target capacity answer outcome event) ∨
      ∃ n, answer = .ok n ∧ 0 < min n capacity := by
  cases answer with
  | error error => exact Or.inl ⟨_, _, .unavailable error⟩
  | ok n =>
    by_cases nothing : min n capacity = 0
    · exact Or.inl ⟨_, _, .empty nothing⟩
    · exact Or.inr ⟨n, rfl, Nat.pos_of_ne_zero nothing⟩

theorem not_nothing_of_value {answer : Except RetrievalError Nat} {n : Nat}
    (answered : answer = .ok n) (something : 0 < min n capacity) :
    ¬ ∃ m, answer = .ok m ∧ min m capacity = 0 := by
  rintro ⟨m, hm, nothing⟩
  obtain rfl : n = m := Except.ok.inj (answered.symm.trans hm)
  omega

namespace Silent

variable {target : Invocation} {answer : Except RetrievalError Nat} {outcome : Outcome}
  {event : Event}

theorem present_eq (h : Silent target capacity answer outcome event) (w : Writer σ) (s : σ)
    (left : Buffer capacity) :
    present w s target left answer = ⟨.ok outcome, left, s, [.note event]⟩ := by
  cases h with
  | unavailable error => rfl
  | @empty n nothing =>
    have hlength : (left.filled n).length = 0 := (left.length_filled n).trans nothing
    exact present_empty w s target left (List.length_eq_zero_iff.mp hlength)

theorem answer_cases (h : Silent target capacity answer outcome event) :
    (∃ error, answer = .error error) ∨ ∃ n, answer = .ok n ∧ min n capacity = 0 := by
  cases h with
  | unavailable error => exact Or.inl ⟨error, rfl⟩
  | empty nothing => exact Or.inr ⟨_, rfl, nothing⟩

theorem unavailable_iff (h : Silent target capacity answer outcome event)
    (error : RetrievalError) : outcome = .unavailable error ↔ answer = .error error := by
  cases h <;> simp

theorem empty_iff (h : Silent target capacity answer outcome event) :
    outcome = .empty ↔ ∃ n, answer = .ok n ∧ min n capacity = 0 := by
  cases h with
  | unavailable error => simp
  | empty nothing => exact iff_of_true rfl ⟨_, rfl, nothing⟩

theorem not_printed (h : Silent target capacity answer outcome event) (length : Nat) :
    outcome ≠ .printed length := by
  cases h <;> simp

end Silent

/-- Only what is unavailable fails under a policy, with its own error. -/
theorem Outcome.underPolicy_eq_error_iff (outcome : Outcome) (policy : Policy)
    (error : RetrievalError) :
    outcome.underPolicy policy = .error error ↔
      policy = .strict ∧ outcome = .unavailable error := by
  cases outcome with
  | printed length => simp [underPolicy]
  | empty => simp [underPolicy]
  | unavailable cause => cases policy <;> simp [underPolicy]

theorem Run.events_of_writes (result : Except OutputError Outcome) (buffer : Buffer capacity)
    (s : σ) (calls : List Call) : (Run.mk result buffer s (calls.map .call)).events = [] := by
  simp [Run.events]

/-- A run with something to print calls its writer and notes nothing. -/
theorem present_value (w : Writer σ) (s : σ) (target : Invocation) (left : Buffer capacity)
    {n : Nat} (something : 0 < min n capacity) :
    let run := present w s target left (.ok n)
    run.calls ≠ [] ∧ run.events = [] ∧
      (run.result = .ok (.printed (min n capacity)) ∨ ∃ error, run.result = .error error) := by
  intro run
  have nonempty : left.filled n ≠ [] := (left.filled_ne_nil_iff n).mpr something
  obtain ⟨before, last, hcalls, -⟩ := (w.writeLine_lineEnd s (left.filled n)).exists_record
  have hcalled : run.calls ≠ [] := by
    rw [calls_present w s target left n, if_neg nonempty, hcalls]
    exact List.concat_ne_nil last before
  cases hend : (w.writeLine s (left.filled n)).error with
  | none =>
    have hrun : run = _ := present_printed w s target left nonempty hend
    refine ⟨hcalled, ?_, Or.inl ?_⟩
    · rw [hrun, Run.events_of_writes]
    · rw [hrun, left.length_filled]
  | some cause =>
    have hrun : run = _ := present_failed w s target left nonempty hend
    refine ⟨hcalled, ?_, Or.inr ⟨⟨cause⟩, ?_⟩⟩
    · rw [hrun, Run.events_of_writes]
    · rw [hrun]

theorem Event.line_nothingToPrint (error : RetrievalError) :
    (nothingToPrint error).line = "DEBUG nothing to print: " ++ error.message := by
  have hstart : "DEBUG nothing to print: " = "DEBUG " ++ "nothing to print: " := by decide
  change "DEBUG " ++ ("nothing to print: " ++ error.message) = _
  rw [hstart, String.append_assoc]

theorem Event.line_emptyValue (target : Invocation) :
    (emptyValue target).line =
      "DEBUG attribute " ++ target.shownName ++ " of " ++ target.shownPath ++ " is empty" := by
  have hstart : "DEBUG attribute " = "DEBUG " ++ "attribute " := by decide
  change "DEBUG " ++
    ("attribute " ++ target.shownName ++ " of " ++ target.shownPath ++ " is empty") = _
  rw [hstart]
  simp only [String.append_assoc]

section ReadAttribute

variable (source : Source) (w : Writer σ) (s : σ) (target : Invocation) (buffer : Buffer capacity)

theorem readAttribute_silent {outcome : Outcome} {event : Event}
    (h : Silent target capacity (source target buffer.bytes).answer outcome event) :
    let run := readAttribute source w s target buffer
    run.calls = [] ∧ run.state = s ∧ run.result = .ok outcome ∧
      run.events = (source target buffer.bytes).events ++ [event] := by
  intro run
  have hrun := h.present_eq w s (buffer.store 0 (source target buffer.bytes).copied)
  refine ⟨?_, ?_, ?_, ?_⟩
  · rw [calls_readAttribute, hrun]
    rfl
  · rw [state_readAttribute, hrun]
  · rw [result_readAttribute, hrun]
  · rw [events_readAttribute, hrun]
    rfl

theorem readAttribute_value {n : Nat} (answered : (source target buffer.bytes).answer = .ok n)
    (something : 0 < min n capacity) :
    let run := readAttribute source w s target buffer
    run.calls ≠ [] ∧ run.events = (source target buffer.bytes).events ∧
      (run.result = .ok (.printed (min n capacity)) ∨ ∃ error, run.result = .error error) := by
  intro run
  obtain ⟨called, unnoted, ended⟩ :=
    present_value w s target (buffer.store 0 (source target buffer.bytes).copied) something
  rw [← answered] at called unnoted ended
  refine ⟨?_, ?_, ended⟩
  · rwa [calls_readAttribute]
  · rw [events_readAttribute, unnoted, List.append_nil]

theorem calls_eq_nil_iff :
    (readAttribute source w s target buffer).calls = [] ↔
      (∃ error, (source target buffer.bytes).answer = .error error) ∨
        ∃ n, (source target buffer.bytes).answer = .ok n ∧ min n capacity = 0 := by
  rcases silent_or_value target capacity (source target buffer.bytes).answer with
    ⟨outcome, event, silent⟩ | ⟨n, answered, something⟩
  · obtain ⟨uncalled, -⟩ := readAttribute_silent source w s target buffer silent
    exact iff_of_true uncalled silent.answer_cases
  · obtain ⟨called, -⟩ := readAttribute_value source w s target buffer answered something
    refine iff_of_false called ?_
    rintro (⟨error, failed⟩ | nothing)
    · cases answered.symm.trans failed
    · exact not_nothing_of_value answered something nothing

theorem state_of_uncalled (uncalled : (readAttribute source w s target buffer).calls = []) :
    (readAttribute source w s target buffer).state = s := by
  rcases silent_or_value target capacity (source target buffer.bytes).answer with
    ⟨outcome, event, silent⟩ | ⟨n, answered, something⟩
  · exact (readAttribute_silent source w s target buffer silent).2.1
  · exact absurd uncalled (readAttribute_value source w s target buffer answered something).1

theorem result_eq_unavailable_iff (error : RetrievalError) :
    (readAttribute source w s target buffer).result = .ok (.unavailable error) ↔
      (source target buffer.bytes).answer = .error error := by
  rcases silent_or_value target capacity (source target buffer.bytes).answer with
    ⟨outcome, event, silent⟩ | ⟨n, answered, something⟩
  · obtain ⟨-, -, hresult, -⟩ := readAttribute_silent source w s target buffer silent
    rw [hresult, Except.ok.injEq, silent.unavailable_iff]
  · obtain ⟨-, -, hprinted | ⟨cause, hfailed⟩⟩ :=
      readAttribute_value source w s target buffer answered something
    · simp [hprinted, answered]
    · simp [hfailed, answered]

theorem result_eq_empty_iff :
    (readAttribute source w s target buffer).result = .ok .empty ↔
      ∃ n, (source target buffer.bytes).answer = .ok n ∧ min n capacity = 0 := by
  rcases silent_or_value target capacity (source target buffer.bytes).answer with
    ⟨outcome, event, silent⟩ | ⟨n, answered, something⟩
  · obtain ⟨-, -, hresult, -⟩ := readAttribute_silent source w s target buffer silent
    rw [hresult, Except.ok.injEq, silent.empty_iff]
  · refine iff_of_false ?_ (not_nothing_of_value answered something)
    obtain ⟨-, -, hprinted | ⟨cause, hfailed⟩⟩ :=
      readAttribute_value source w s target buffer answered something
    · simp [hprinted]
    · simp [hfailed]

/-- A run that got as far as its writer notes nothing of its own. -/
theorem events_of_written
    (written : (∃ length, (readAttribute source w s target buffer).result = .ok (.printed length)) ∨
      ∃ error, (readAttribute source w s target buffer).result = .error error) :
    (readAttribute source w s target buffer).events = (source target buffer.bytes).events := by
  rcases silent_or_value target capacity (source target buffer.bytes).answer with
    ⟨outcome, event, silent⟩ | ⟨n, answered, something⟩
  · obtain ⟨-, -, hresult, -⟩ := readAttribute_silent source w s target buffer silent
    rcases written with ⟨length, hprinted⟩ | ⟨error, hfailed⟩
    · exact absurd (Except.ok.inj (hresult.symm.trans hprinted)) (silent.not_printed length)
    · cases hresult.symm.trans hfailed
  · exact (readAttribute_value source w s target buffer answered something).2.1

end ReadAttribute

/-- A run calls its writer exactly if there is something to print. If there is not, the result does
not depend on the writer, which is left as it was: the attribute is unavailable for the very error
of the query, or empty, and one note says so. Under a policy only the former can fail, with that
error. A run that printed, or whose writer failed, notes nothing. The buffer is as the query left
it. -/
theorem silent_iff_nothing_to_print (source : Source) (w : Writer σ) (s : σ) (target : Invocation)
    (buffer : Buffer capacity) :
    let reply := source target buffer.bytes
    let run := readAttribute source w s target buffer
    (run.calls = [] ↔
      (∃ error, reply.answer = .error error) ∨ ∃ n, reply.answer = .ok n ∧ min n capacity = 0) ∧
    (run.calls = [] → run.state = s) ∧
    (∀ error, run.result = .ok (.unavailable error) ↔ reply.answer = .error error) ∧
    (run.result = .ok .empty ↔ ∃ n, reply.answer = .ok n ∧ min n capacity = 0) ∧
    (∀ error, reply.answer = .error error →
      run.events = reply.events ++ [.nothingToPrint error] ∧
        (Event.nothingToPrint error).line = "DEBUG nothing to print: " ++ error.message) ∧
    (∀ n, reply.answer = .ok n → min n capacity = 0 →
      run.events = reply.events ++ [.emptyValue target] ∧
        (Event.emptyValue target).line =
          "DEBUG attribute " ++ target.shownName ++ " of " ++ target.shownPath ++ " is empty") ∧
    (∀ outcome, run.result = .ok outcome → ∀ policy error,
      outcome.underPolicy policy = .error error ↔
        policy = .strict ∧ reply.answer = .error error) ∧
    ((∃ length, run.result = .ok (.printed length)) ∨ (∃ error, run.result = .error error) →
      run.events = reply.events) ∧
    run.buffer = buffer.store 0 reply.copied := by
  intro reply run
  refine ⟨calls_eq_nil_iff source w s target buffer, state_of_uncalled source w s target buffer,
    result_eq_unavailable_iff source w s target buffer,
    result_eq_empty_iff source w s target buffer,
    ?_, ?_, ?_, events_of_written source w s target buffer,
    buffer_readAttribute source w s target buffer⟩
  · intro error failed
    have silent :
        Silent target capacity reply.answer (.unavailable error) (.nothingToPrint error) := by
      rw [failed]
      exact .unavailable error
    exact ⟨(readAttribute_silent source w s target buffer silent).2.2.2,
      Event.line_nothingToPrint error⟩
  · intro n answered nothing
    have silent : Silent target capacity reply.answer .empty (.emptyValue target) := by
      rw [answered]
      exact .empty nothing
    exact ⟨(readAttribute_silent source w s target buffer silent).2.2.2,
      Event.line_emptyValue target⟩
  · intro outcome hresult policy error
    have hunavailable := result_eq_unavailable_iff source w s target buffer error
    rw [hresult, Except.ok.injEq] at hunavailable
    rw [outcome.underPolicy_eq_error_iff, hunavailable]

end AttributePrinter
