import AttributePrinter.Source

/-!
# What a query comes to

A query by looking up is told apart by what the lookup found: an error of the system, nothing, a
value that does not fit, or a value that does. The lookup is left open, so it may stand for any
state of any file system. Only the last of the four touches the buffer, and it touches no more of
it than the value takes up.
-/

namespace AttributePrinter

/-- What a lookup answers and copies, for each thing that it can find. -/
inductive Answers (target : Invocation) (capacity : Nat) :
    Except SystemError (Option Bytes) → Except RetrievalError Nat → Bytes → Prop where
  | system (cause : SystemError) :
      Answers target capacity (.error cause) (.error (.system target cause)) []
  | missing : Answers target capacity (.ok none) (.error (.missing target)) []
  | tooLarge {value : Bytes} (exceeds : capacity < value.length) :
      Answers target capacity (.ok (some value))
        (.error (.tooLarge target value.length capacity)) []
  | whole {value : Bytes} (fits : value.length ≤ capacity) :
      Answers target capacity (.ok (some value)) (.ok value.length) value

theorem Reply.ofLookup_answers (target : Invocation) (capacity : Nat)
    (found : Except SystemError (Option Bytes)) :
    Answers target capacity found (ofLookup target capacity found).answer
      (ofLookup target capacity found).copied := by
  match found with
  | .error cause => exact .system cause
  | .ok none => exact .missing
  | .ok (some value) =>
    rcases Nat.lt_or_ge capacity value.length with exceeds | fits
    · rw [ofLookup_exceeds exceeds]
      exact .tooLarge exceeds
    · rw [ofLookup_fits fits]
      exact .whole fits

theorem Source.ofLookup_answers {capacity : Nat} (lookup : Lookup) (target : Invocation)
    (buffer : Buffer capacity) :
    Answers target capacity (lookup target.path target.name)
      (ofLookup lookup target buffer.bytes).answer
      (ofLookup lookup target buffer.bytes).copied := by
  rw [ofLookup, buffer.length_eq]
  exact Reply.ofLookup_answers target capacity _

namespace Answers

variable {target : Invocation} {capacity : Nat} {found : Except SystemError (Option Bytes)}
  {answer : Except RetrievalError Nat} {copied : Bytes}

theorem system_iff (h : Answers target capacity found answer copied) {cause : SystemError} :
    answer = .error (.system target cause) ↔ found = .error cause := by
  cases h <;> simp

theorem missing_iff (h : Answers target capacity found answer copied) :
    answer = .error (.missing target) ↔ found = .ok none := by
  cases h <;> simp

theorem tooLarge_iff (h : Answers target capacity found answer copied) {length room : Nat} :
    answer = .error (.tooLarge target length room) ↔
      ∃ value, found = .ok (some value) ∧ capacity < value.length ∧ length = value.length ∧
        room = capacity := by
  cases h with
  | system => simp
  | missing => simp
  | tooLarge exceeds => simp [exceeds, eq_comm]
  | whole fits => simp [Nat.not_lt.mpr fits]

theorem ok_iff (h : Answers target capacity found answer copied) {length : Nat} :
    answer = .ok length ↔
      ∃ value, found = .ok (some value) ∧ value.length ≤ capacity ∧ length = value.length := by
  cases h with
  | system => simp
  | missing => simp
  | tooLarge exceeds => simp [Nat.not_le.mpr exceeds]
  | whole fits => simp [fits, eq_comm]

theorem of_error (h : Answers target capacity found answer copied) {error : RetrievalError}
    (failed : answer = .error error) : error.target = target ∧ copied = [] := by
  cases h with
  | system | missing | tooLarge =>
    cases failed
    exact ⟨rfl, rfl⟩
  | whole => cases failed

theorem copied_of_fits (h : Answers target capacity found answer copied) {value : Bytes}
    (hfound : found = .ok (some value)) (fits : value.length ≤ capacity) : copied = value := by
  cases h with
  | system => cases hfound
  | missing => cases hfound
  | tooLarge exceeds =>
    cases hfound
    exact absurd fits (Nat.not_le.mpr exceeds)
  | whole =>
    cases hfound
    rfl

theorem length_copied_le (h : Answers target capacity found answer copied) :
    copied.length ≤ capacity := by
  cases h with
  | system | missing | tooLarge => exact Nat.zero_le capacity
  | whole fits => exact fits

end Answers

/-- A query by looking up, with any lookup, answers with the error that the lookup met, that there
is nothing, that the value does not fit, or the length of a value that does. An error names what
was asked for and leaves the buffer as it is. A value that fits stands at the start of the buffer,
and what is behind it is left as it is. What is copied is never more than there is room for. The
attributes of a file tree are queried so, with the lookup in the tree. -/
theorem query_told_apart {capacity : Nat}
    (lookup : Bytes → Bytes → Except SystemError (Option Bytes)) (path name : Bytes)
    (buffer : Buffer capacity) :
    let target : Invocation := ⟨path, name⟩
    let found := lookup path name
    let reply := Source.ofLookup lookup target buffer.bytes
    let left := buffer.store 0 reply.copied
    (∀ cause, reply.answer = .error (.system target cause) ↔ found = .error cause) ∧
      (reply.answer = .error (.missing target) ↔ found = .ok none) ∧
      (∀ length room, reply.answer = .error (.tooLarge target length room) ↔
        ∃ value, found = .ok (some value) ∧ capacity < value.length ∧ length = value.length ∧
          room = capacity) ∧
      (∀ length, reply.answer = .ok length ↔
        ∃ value, found = .ok (some value) ∧ value.length ≤ capacity ∧ length = value.length) ∧
      (∀ error, reply.answer = .error error →
        error.target = target ∧ left.bytes = buffer.bytes) ∧
      (∀ value, found = .ok (some value) → value.length ≤ capacity →
        left.bytes.take value.length = value ∧
          left.bytes.drop value.length = buffer.bytes.drop value.length) ∧
      reply.copied.length ≤ capacity := by
  intro target found reply left
  have answers : Answers target capacity found reply.answer reply.copied :=
    Source.ofLookup_answers lookup target buffer
  have hleft : left.bytes = reply.copied ++ buffer.bytes.drop reply.copied.length :=
    buffer.store_start answers.length_copied_le
  refine ⟨fun _ => answers.system_iff, answers.missing_iff, fun _ _ => answers.tooLarge_iff,
    fun _ => answers.ok_iff, fun error failed => ?_, fun value hfound fits => ?_,
    answers.length_copied_le⟩
  · obtain ⟨htarget, nothing⟩ := answers.of_error failed
    rw [hleft, nothing]
    exact ⟨htarget, rfl⟩
  · rw [hleft, answers.copied_of_fits hfound fits]
    exact ⟨List.take_left, List.drop_left⟩

end AttributePrinter
