import AttributePrinter.Writer.Basic

/-!
# Scripted writers

A writer given by numbers: how many calls are interrupted first, how many bytes a call takes at
most, how many bytes are taken altogether, and what a call answers when it may take none. What
is left of the script is the writer's state.
-/

namespace AttributePrinter

/-- A missing limit is none; a missing `refusal` is a call that takes nothing. -/
structure Script where
  interruptions : Nat := 0
  chunk : Option Nat := none
  budget : Option Nat := none
  refusal : Option SystemError := none
  flushError : Option SystemError := none
  deriving DecidableEq, Repr

namespace Script

def within (limit : Option Nat) (n : Nat) : Nat :=
  match limit with
  | none => n
  | some most => min most n

/-- What is left of a limit once `n` bytes are taken. -/
def rest (limit : Option Nat) (n : Nat) : Option Nat :=
  limit.map (· - n)

/-- The number of bytes that a call takes of `offered` ones. -/
def allowance (s : Script) (offered : Nat) : Nat :=
  within s.chunk (within s.budget offered)

theorem within_le (limit : Option Nat) (n : Nat) : within limit n ≤ n := by
  cases limit with
  | none => exact Nat.le_refl n
  | some most => exact Nat.min_le_right most n

@[simp]
theorem rest_zero (limit : Option Nat) : rest limit 0 = limit := by
  simp [rest]

theorem rest_rest (limit : Option Nat) (n m : Nat) :
    rest (rest limit n) m = rest limit (n + m) := by
  simp [rest, Function.comp_def, Nat.sub_sub]

/-- What is taken of a first part is missing for the others. -/
theorem within_rest (limit : Option Nat) (part n : Nat) :
    within (rest limit part) (n - part) = within limit n - part := by
  cases limit with
  | none => rfl
  | some most =>
    simp only [rest, Option.map_some, within]
    omega

theorem allowance_le (s : Script) (offered : Nat) : s.allowance offered ≤ offered :=
  Nat.le_trans (within_le _ _) (within_le _ _)

def write (s : Script) (offered : Bytes) : WriteReply × Script :=
  match s.interruptions with
  | left + 1 => (.interrupted, { s with interruptions := left })
  | 0 =>
    let n := s.allowance offered.length
    if n = 0 then
      match s.refusal with
      | none => (.accepted 0, s)
      | some error => (.failed error, s)
    else (.accepted n, { s with budget := rest s.budget n })

def flush (s : Script) : Option SystemError × Script :=
  (s.flushError, s)

theorem accepted_le (s : Script) (offered : Bytes) (n : Nat)
    (h : (s.write offered).1 = .accepted n) : n ≤ offered.length := by
  have hle := s.allowance_le offered.length
  unfold write at h
  split at h
  · cases h
  · simp only at h
    split at h
    · split at h <;> simp_all
      omega
    · cases h
      exact hle

theorem interruptions_lt (s : Script) (offered : Bytes)
    (h : (s.write offered).1 = .interrupted) :
    (s.write offered).2.interruptions < s.interruptions := by
  unfold write at h ⊢
  split at h
  · rename_i left heq
    simp [heq]
  · simp only at h
    split at h
    · split at h <;> cases h
    · cases h

def writer : Writer Script where
  write := write
  flush := flush
  patience s _ := s.interruptions
  accepted_le := accepted_le
  patience_lt := interruptions_lt

/-- Takes everything. -/
def accepting : Script := {}

/-- Takes nothing and answers every call with `error`. -/
def refusing (error : SystemError) : Script :=
  { budget := some 0, refusal := some error }

theorem write_accepting {offered : Bytes} (h : offered ≠ []) :
    writer.write accepting offered = (.accepted offered.length, accepting) := by
  have hlength : offered.length ≠ 0 := mt List.length_eq_zero_iff.mp h
  simp [writer, write, accepting, allowance, within, rest, hlength]

theorem write_refusing (error : SystemError) (offered : Bytes) :
    writer.write (refusing error) offered = (.failed error, refusing error) := by
  simp [writer, write, refusing, allowance, within]

theorem writeAll_accepting {bytes : Bytes} (h : bytes ≠ []) :
    writer.writeAll accepting bytes =
      ⟨[.write bytes (.accepted bytes.length)], accepting, none⟩ := by
  obtain ⟨n, hn⟩ := Nat.exists_eq_succ_of_ne_zero (mt List.length_eq_zero_iff.mp h)
  have hwrite : writer.write accepting bytes = (.accepted (n + 1), accepting) := by
    rw [write_accepting h, hn]
  have hrest : bytes.drop (n + 1) = [] := List.drop_eq_nil_of_le (Nat.le_of_eq hn)
  rw [writer.writeAll_of_accepted h hwrite, hrest, writer.writeAll_nil, hn]
  rfl

/-- A line goes out in two writes and a flush. -/
theorem writeLine_accepting {value : Bytes} (h : value ≠ []) :
    writer.writeLine accepting value =
      ⟨[.write value (.accepted value.length), .write [Writer.newline] (.accepted 1), .flush none],
        accepting, none⟩ := by
  have hnewline := writeAll_accepting (List.cons_ne_nil Writer.newline [])
  simp only [Writer.writeLine, writeAll_accepting h, Written.andThen, hnewline]
  rfl

/-- The first write of a line is refused and ends it. -/
theorem writeLine_refusing (error : SystemError) {value : Bytes} (h : value ≠ []) :
    writer.writeLine (refusing error) value =
      ⟨[.write value (.failed error)], refusing error, some error⟩ := by
  have hvalue := writer.writeAll_of_failed h (write_refusing error value)
  simp only [Writer.writeLine, hvalue, Written.andThen]

end Script

end AttributePrinter
