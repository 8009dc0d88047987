import AttributePrinter.Proofs.Querying
import AttributePrinter.Proofs.Reading

/-!
# Runs by looking up

What a run comes to is settled by what the lookup has for the path and the name: if that is no
value, or none that fits into the buffer, the attribute is unavailable; an empty value is told
apart; any other value reaches a writer that takes everything as a whole, and a writer that refuses
everything makes the run fail. The lookup is left open, so all this holds of any files.
-/

namespace AttributePrinter

/-- The lookup has this value for the name at the path, and it fits. -/
def Lookup.Retrieves (lookup : Lookup) (capacity : Nat) (path name value : Bytes) : Prop :=
  lookup path name = .ok (some value) ∧ value.length ≤ capacity

variable {lookup : Lookup} {capacity : Nat} {path name value : Bytes}

namespace Lookup

theorem Retrieves.unique {other : Bytes} (h : lookup.Retrieves capacity path name value)
    (h' : lookup.Retrieves capacity path name other) : value = other :=
  Option.some.inj (Except.ok.inj (h.1.symm.trans h'.1))

theorem Retrieves.answers (h : lookup.Retrieves capacity path name value) :
    Answers ⟨path, name⟩ capacity (lookup path name) (.ok value.length) value := by
  rw [h.1]
  exact .whole h.2

theorem exists_error_of_not_retrieves
    (lost : ∀ value, ¬ lookup.Retrieves capacity path name value) :
    ∃ error, Answers ⟨path, name⟩ capacity (lookup path name) (.error error) [] := by
  cases hfound : lookup path name with
  | error cause => exact ⟨_, .system cause⟩
  | ok found =>
    cases found with
    | none => exact ⟨_, .missing⟩
    | some value =>
      exact ⟨_, .tooLarge (Nat.lt_of_not_le fun fits => lost value ⟨hfound, fits⟩)⟩

end Lookup

/-- An answer and what was copied with it are those of the lookup. -/
theorem Answers.reply_eq {target : Invocation} {found : Except SystemError (Option Bytes)}
    {answer : Except RetrievalError Nat} {copied : Bytes}
    (h : Answers target capacity found answer copied) :
    Reply.ofLookup target capacity found = { copied, answer } := by
  cases h with
  | system cause => rfl
  | missing => rfl
  | tooLarge exceeds => exact Reply.ofLookup_exceeds exceeds
  | whole fits => exact Reply.ofLookup_fits fits

theorem Source.ofLookup_eq {answer : Except RetrievalError Nat} {copied : Bytes}
    (answers : Answers ⟨path, name⟩ capacity (lookup path name) answer copied)
    (buffer : Buffer capacity) :
    Source.ofLookup lookup ⟨path, name⟩ buffer.bytes =
      { copied, answer, events := [.querying ⟨path, name⟩] } := by
  rw [Source.ofLookup, buffer.length_eq, answers.reply_eq]

section RunOnce

variable {σ : Type} (w : Writer σ) (s : σ) {error : RetrievalError} {length : Nat}

/-- A run presents what was copied into a fresh buffer. -/
theorem runOnce_presents {answer : Except RetrievalError Nat} {copied : Bytes}
    (answers : Answers ⟨path, name⟩ capacity (lookup path name) answer copied) :
    let run := runOnce capacity (.ofLookup lookup) w s ⟨path, name⟩
    let presented := present w s ⟨path, name⟩ ((Buffer.zeroed capacity).store 0 copied) answer
    run.result = presented.result ∧ run.calls = presented.calls := by
  have hresult :=
    result_readAttribute (.ofLookup lookup) w s ⟨path, name⟩ (Buffer.zeroed capacity)
  have hcalls := calls_readAttribute (.ofLookup lookup) w s ⟨path, name⟩ (Buffer.zeroed capacity)
  rw [Source.ofLookup_eq answers] at hresult hcalls
  exact ⟨hresult, hcalls⟩

theorem runOnce_of_error {copied : Bytes}
    (answers : Answers ⟨path, name⟩ capacity (lookup path name) (.error error) copied) :
    let run := runOnce capacity (.ofLookup lookup) w s ⟨path, name⟩
    run.result = .ok (.unavailable error) ∧ run.output = [] := by
  intro run
  obtain ⟨hresult, hcalls⟩ := runOnce_presents w s answers
  exact ⟨hresult, congrArg Calls.taken hcalls⟩

/-- The value that was looked up is the one that is presented. -/
theorem exists_presented
    (answers : Answers ⟨path, name⟩ capacity (lookup path name) (.ok length) value) :
    let run := runOnce capacity (.ofLookup lookup) w s ⟨path, name⟩
    ∃ left : Buffer capacity, left.filled length = value ∧
      run.result = (present w s ⟨path, name⟩ left (.ok length)).result ∧
      run.calls = (present w s ⟨path, name⟩ left (.ok length)).calls := by
  intro run
  obtain ⟨whole, hfound, fits, rfl⟩ := answers.ok_iff.mp rfl
  obtain rfl : value = whole := answers.copied_of_fits hfound fits
  exact ⟨_, Buffer.filled_store_start _ fits, runOnce_presents w s answers⟩

theorem runOnce_of_empty
    (answers : Answers ⟨path, name⟩ capacity (lookup path name) (.ok length) []) :
    let run := runOnce capacity (.ofLookup lookup) w s ⟨path, name⟩
    run.result = .ok .empty ∧ run.output = [] := by
  intro run
  obtain ⟨left, nothing, hresult, hcalls⟩ := exists_presented w s answers
  rw [present_empty w s _ left nothing] at hresult hcalls
  exact ⟨hresult, congrArg Calls.taken hcalls⟩

/-- A writer that takes lines has taken the value and a newline. -/
theorem runOnce_of_value (takes : w.TakesLines s)
    (answers : Answers ⟨path, name⟩ capacity (lookup path name) (.ok length) value)
    (nonempty : value ≠ []) :
    let run := runOnce capacity (.ofLookup lookup) w s ⟨path, name⟩
    run.result = .ok (.printed value.length) ∧ run.output = value ++ [0x0A] := by
  intro run
  obtain ⟨left, rfl, hresult, hcalls⟩ := exists_presented w s answers
  have complete := Writer.takesLines_iff.mp takes _ nonempty
  have ended := w.writeLine_lineEnd s (left.filled length)
  rw [complete] at ended
  rw [present_printed w s _ left nonempty complete] at hresult
  rw [calls_present, if_neg nonempty] at hcalls
  refine ⟨hresult, ?_⟩
  rw [Run.output, hcalls]
  exact ended.taken_of_ok

theorem Script.accepting_takesLines : Script.writer.TakesLines .accepting :=
  Writer.takesLines_iff.mpr fun _ nonempty => by rw [Script.writeLine_accepting nonempty]

theorem runOnce_refusing (refusal : SystemError)
    (answers : Answers ⟨path, name⟩ capacity (lookup path name) (.ok length) value)
    (nonempty : value ≠ []) :
    let run := runOnce capacity (.ofLookup lookup) Script.writer (.refusing refusal) ⟨path, name⟩
    run.result = .error ⟨refusal⟩ ∧ run.output = [] := by
  intro run
  obtain ⟨left, rfl, hresult, hcalls⟩ := exists_presented Script.writer (.refusing refusal) answers
  have refused := Script.writeLine_refusing refusal nonempty
  rw [present_failed _ _ _ left nonempty (by rw [refused])] at hresult
  rw [calls_present, if_neg nonempty, refused] at hcalls
  exact ⟨hresult, congrArg Calls.taken hcalls⟩

end RunOnce

end AttributePrinter
