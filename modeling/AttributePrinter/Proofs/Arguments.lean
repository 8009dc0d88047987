import AttributePrinter.Program
import AttributePrinter.Proofs.Querying
import AttributePrinter.Proofs.Retaining

/-!
# From the command line to the source

The two arguments behind the program's name are handed on byte for byte: they are what the source is
asked for, once, with a fresh buffer, as the state of any source shows, and what an error names.
Arguments behind them change nothing but a note of their number. With fewer arguments nothing is
asked and nothing is noted.
-/

namespace AttributePrinter

namespace Invocation

variable {arguments : List Bytes}

theorem ofArguments_eq_path_iff : ofArguments arguments = .error .path ↔ arguments.length ≤ 1 := by
  rcases arguments with _ | ⟨own, _ | ⟨path, _ | ⟨name, rest⟩⟩⟩ <;> simp [ofArguments]

theorem ofArguments_eq_name_iff : ofArguments arguments = .error .name ↔ arguments.length = 2 := by
  rcases arguments with _ | ⟨own, _ | ⟨path, _ | ⟨name, rest⟩⟩⟩ <;> simp [ofArguments]

end Invocation

theorem exists_of_three_le {xs : List Bytes} (enough : 3 ≤ xs.length) :
    ∃ own path name extra, xs = own :: path :: name :: extra := by
  rcases xs with _ | ⟨own, _ | ⟨path, _ | ⟨name, extra⟩⟩⟩
  · cases enough
  · simp only [List.length_cons, List.length_nil] at enough
    omega
  · simp only [List.length_cons, List.length_nil] at enough
    omega
  · exact ⟨own, path, name, extra, rfl⟩

theorem Argument.placeholder_eq_path_iff {argument : Argument} :
    argument.placeholder = "<path>" ↔ argument = .path := by
  cases argument <;> decide

theorem Argument.placeholder_eq_name_iff {argument : Argument} :
    argument.placeholder = "<attribute-name>" ↔ argument = .name := by
  cases argument <;> decide

namespace Program

theorem events_of_few (config : Config) {start : Start} (few : start.arguments.length < 2) :
    (runWith config start).events = [] := by
  obtain ⟨source, arguments, environment, stdout⟩ := start
  rcases arguments with _ | ⟨path, _ | ⟨name, extra⟩⟩
  · rfl
  · rfl
  · simp only [List.length_cons] at few
    omega

/-- Arguments behind the first two are noted and ignored. -/
theorem runWith_extra (config : Config) (source : Source) (path name : Bytes) (extra : List Bytes)
    (environment : Setting.Environment) (stdout : Stdout) :
    let result := runWith config ⟨source, path :: name :: extra, environment, stdout⟩
    let plain := runWith config ⟨source, [path, name], environment, stdout⟩
    result.ending = plain.ending ∧ result.output = plain.output ∧
      result.events = Event.ofExtra extra.length ++ plain.events := by
  intro result plain
  exact ⟨rfl, rfl, rfl⟩

end Program

open Program in
/-- Two arguments behind the program's name are enough, and the one that is missing is named. If
they are there, whatever stands behind them, a run asks its source for these bytes, once, with a
buffer of zeros that is as long as the capacity says: it leaves the source in the state behind this
one query, whatever states the source has. An error of looking up names the same bytes. Arguments
behind them change nothing in the run, and the program notes only how many there are. -/
theorem arguments_reach_source_once (xs : List Bytes) :
    ((∃ parsed, Invocation.ofArguments xs = .ok parsed) ↔ 3 ≤ xs.length) ∧
    ((∃ missing, Invocation.ofArguments xs = .error missing ∧ missing.placeholder = "<path>") ↔
      xs.length ≤ 1) ∧
    ((∃ missing, Invocation.ofArguments xs = .error missing ∧
      missing.placeholder = "<attribute-name>") ↔ xs.length = 2) ∧
    (xs.length < 3 → ∀ config source environment stdout,
      (runWith config ⟨source, xs.tail, environment, stdout⟩).events = []) ∧
    ∀ ys : List Bytes, 3 ≤ xs.length → ∃ path name, xs[1]? = some path ∧ xs[2]? = some name ∧
      (∀ (σ τ : Type) (w : Writer σ) (s : σ) (source : StatefulSource τ) (t : τ) (capacity : Nat),
        let zeros := List.replicate capacity 0
        let runOf := fun parsed : Invocation × Nat => runOnceFrom capacity source w t s parsed.1
        let run := runOnceFrom capacity source w t s ⟨path, name⟩
        (Invocation.ofArguments (xs ++ ys)).map runOf = .ok run ∧
        (Invocation.ofArguments (xs.take 3)).map runOf = .ok run ∧
        run.2 = (source t ⟨path, name⟩ zeros).2 ∧
        run.1.queries = [(⟨path, name⟩, zeros)]) ∧
      (∀ lookup before error,
        (Source.ofLookup lookup ⟨path, name⟩ before).answer = .error error →
          error.target = ⟨path, name⟩) ∧
      ∀ config source environment stdout,
        let resultOf := fun arguments =>
          runWith config ⟨source, arguments, environment, stdout⟩
        let result := resultOf (xs ++ ys).tail
        let plain := resultOf (xs.take 3).tail
        let extra := xs.length + ys.length - 3
        result.ending = plain.ending ∧ result.output = plain.output ∧
          result.events =
            (if 0 < extra then [.ignoredArguments extra] else []) ++ plain.events := by
  refine ⟨?_, ?_, ?_, ?_, ?_⟩
  · rw [← Invocation.ofArguments_isOk_iff]
    cases Invocation.ofArguments xs <;> simp [Except.isOk, Except.toBool]
  · simp only [Argument.placeholder_eq_path_iff, exists_eq_right]
    exact Invocation.ofArguments_eq_path_iff
  · simp only [Argument.placeholder_eq_name_iff, exists_eq_right]
    exact Invocation.ofArguments_eq_name_iff
  · intro few config source environment stdout
    apply events_of_few
    simp only [List.length_tail]
    omega
  · intro ys enough
    obtain ⟨own, path, name, extra, rfl⟩ := exists_of_three_le enough
    refine ⟨path, name, rfl, rfl, ?_, ?_, ?_⟩
    · intro σ τ w s source t capacity zeros runOf run
      have hrun : run = _ :=
        readAttributeFrom_eq w s ⟨path, name⟩ (Buffer.zeroed capacity) source t
      refine ⟨rfl, rfl, ?_, ?_⟩
      · rw [hrun]
        rfl
      · rw [hrun]
        exact queries_readAttribute _ w s ⟨path, name⟩ (Buffer.zeroed capacity)
    · intro lookup before error failed
      exact ((Source.ofLookup_answers lookup ⟨path, name⟩ ⟨before, rfl⟩).of_error failed).1
    · intro config source environment stdout resultOf result plain count
      have hcount : count = (extra ++ ys).length := by
        simp only [count, List.length_cons, List.length_append]
        omega
      obtain ⟨hending, houtput, hevents⟩ :=
        runWith_extra config source path name (extra ++ ys) environment stdout
      refine ⟨hending, houtput, ?_⟩
      rw [← hcount] at hevents
      refine hevents.trans (congrArg (· ++ plain.events) ?_)
      by_cases positive : 0 < count
      · rw [if_pos positive, Event.ofExtra, if_neg (Nat.ne_of_gt positive)]
      · rw [if_neg positive, Event.ofExtra, if_pos (Nat.eq_zero_of_not_pos positive)]

end AttributePrinter
