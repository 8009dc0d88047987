import AttributePrinter.Proofs.Reading

/-!
# What reaches the writer

A run reports a printed value exactly if every part of the line was taken and the flush went
well; otherwise a first part of the line was taken and the call that failed was the last. Nothing
is assumed of the source, which may report any length, nor of the writer beyond what makes it one.
-/

namespace AttributePrinter

/-- A run that fails took a first part of the line, and the error it reports is that of its last
call, before which none failed. It was flushed, once, exactly if the whole line was taken. -/
theorem output_error_is_last_call {σ : Type} {capacity n : Nat} {source : Source} {w : Writer σ}
    {s : σ} {target : Invocation} {buffer : Buffer capacity} {cause : SystemError}
    (answered : (source target buffer.bytes).answer = .ok n)
    (failed : (readAttribute source w s target buffer).result = .error ⟨cause⟩) :
    let value := (buffer.store 0 (source target buffer.bytes).copied).filled n
    let run := readAttribute source w s target buffer
    value ≠ [] ∧ run.output <+: value ++ [0x0A] ∧
      ∃ before last, run.calls = before ++ [last] ∧
        (∀ call ∈ before, ∃ offered, call = .write offered .interrupted ∨
          ∃ k, 0 < k ∧ call = .write offered (.accepted k)) ∧
        ((∃ offered, last = .write offered (.failed cause)) ∨
          (∃ offered, last = .write offered (.accepted 0) ∧ cause = .nothingTaken ∧
            cause.message = "failed to write whole buffer") ∨
          last = .flush (some cause)) ∧
        run.flushes = (if run.output = value ++ [0x0A] then 1 else 0) ∧
        (run.output = value ++ [0x0A] ↔ last = .flush (some cause)) := by
  intro value run
  have reads := readAttribute_reads source w s target buffer
  rw [answered, failed] at reads
  obtain ⟨m, before, last, hm, something, hcalls, fails, record⟩ := reads.of_failed
  obtain rfl : n = m := Except.ok.inj hm
  have houtput : run.output = Calls.taken (before ++ [last]) := by
    rw [Run.output, hcalls]
  have whole_iff : run.output = value ++ [0x0A] ↔ last.isFlush = true := by
    rw [houtput]
    exact record.isFlush_iff.symm
  refine ⟨something, ?_, before, last, hcalls, ?_, ?_, ?_, ?_⟩
  · rw [houtput]
    exact record.taken_prefix
  · exact fun call hcall => Call.proceeds_iff.mp (record.proceeds call hcall)
  · rcases Call.failure?_eq_some_iff.mp fails with hwrite | ⟨offered, hlast, rfl⟩ | hflush
    · exact Or.inl hwrite
    · exact Or.inr (Or.inl ⟨offered, hlast, rfl, rfl⟩)
    · exact Or.inr (Or.inr hflush)
  · simp only [whole_iff]
    rw [Run.flushes, hcalls, record.countP_isFlush]
  · rw [whole_iff]
    constructor
    · intro hflush
      cases last with
      | write => cases hflush
      | flush answer => exact congrArg Call.flush fails
    · rintro rfl
      rfl

/-- A device that is full right behind the value: the newline fails and no flush follows. -/
theorem no_flush_without_newline :
    let source : Source := fun _ before => .reporting (asciiBytes "hello") 5 before.length
    let script : Script :=
      { interruptions := 1, chunk := some 2, budget := some 5, refusal := some .noSpace }
    let target : Invocation := ⟨asciiBytes "f", asciiBytes "user.note"⟩
    let run := readAttribute source Script.writer script target (Buffer.zeroed 8)
    (source target (Buffer.zeroed 8).bytes).answer = .ok 5 ∧
      run.result = .error ⟨.noSpace⟩ ∧ run.output <+: asciiBytes "hello\n" ∧ run.flushes = 0 := by
  intro source script target run
  have answered : (source target (Buffer.zeroed 8).bytes).answer = .ok 5 := rfl
  have failed : run.result = .error ⟨.noSpace⟩ := by cbv
  obtain ⟨-, hprefix, before, last, hcalls, -, -, hflushes, -⟩ :=
    output_error_is_last_call answered failed
  have houtput : run.output = asciiBytes "hello" := by cbv
  refine ⟨answered, failed, hprefix, ?_⟩
  rw [hflushes, if_neg]
  rw [houtput]
  decide

end AttributePrinter
