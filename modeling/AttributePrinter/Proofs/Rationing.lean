import AttributePrinter.Proofs.Retaining
import Mathlib.Data.List.Permutation

/-!
# Writers on a ration

Rules say which answers a write may get and by which rules it goes on behind them; a writer keeps to
them for good if an invariant ties its states to the rules. The terms of a writer are such rules:
they say how many bytes it takes altogether, what it answers once they are used up, and how it
flushes. They leave open how many bytes a call takes and when a call is interrupted. A line written
on terms comes out the same in whatever pieces it is taken: as much of it as the terms cover, and if
they cover all of it, one flush. So two runs on the same terms give the same account of themselves.
The calls are no part of that account; they do tell one writer from another.
-/

namespace AttributePrinter

variable {σ τ ρ : Type} {capacity : Nat}

/-- Rules for answering: which answers a write of so many bytes may get, and by which rules it goes
on behind each; and how a flush may end. -/
structure Rules (ρ : Type) where
  Allow : ρ → Nat → WriteReply → ρ → Prop
  Flushes : ρ → Option SystemError → Prop

/-- In this state the writer will keep to the rules for good: there is an invariant that holds now,
allows every answer and is kept by it. -/
def Writer.Follows (w : Writer σ) (rules : Rules ρ) (s : σ) (rule : ρ) : Prop :=
  ∃ holds : σ → ρ → Prop, holds s rule ∧ ∀ s rule, holds s rule →
    rules.Flushes rule (w.flush s).1 ∧ ∀ offered ≠ [],
      ∃ behind, rules.Allow rule offered.length (w.write s offered).1 behind ∧
        holds (w.write s offered).2 behind

namespace Writer.Follows

variable {w : Writer σ} {rules : Rules ρ} {s s' : σ} {rule : ρ}

theorem flush (follows : w.Follows rules s rule) : rules.Flushes rule (w.flush s).1 := by
  obtain ⟨holds, now, kept⟩ := follows
  exact (kept s rule now).1

/-- The rules are kept behind every answer. -/
theorem write (follows : w.Follows rules s rule) {offered : Bytes} (something : offered ≠ [])
    {reply : WriteReply} (answer : w.write s offered = (reply, s')) :
    ∃ behind, rules.Allow rule offered.length reply behind ∧ w.Follows rules s' behind := by
  obtain ⟨holds, now, kept⟩ := follows
  obtain ⟨behind, allow, next⟩ := (kept s rule now).2 offered something
  rw [answer] at allow next
  exact ⟨behind, allow, holds, next, kept⟩

end Writer.Follows

/-- A missing budget is no limit; a missing refusal is a call that takes nothing. -/
structure Terms where
  budget : Option Nat
  refusal : Option SystemError
  flushError : Option SystemError
  deriving DecidableEq, Repr

namespace Terms

def Covers (terms : Terms) (n : Nat) : Prop :=
  ∀ most ∈ terms.budget, n ≤ most

instance (terms : Terms) (n : Nat) : Decidable (terms.Covers n) :=
  inferInstanceAs (Decidable (∀ most ∈ terms.budget, n ≤ most))

def spend (terms : Terms) (n : Nat) : Terms :=
  { terms with budget := Script.rest terms.budget n }

/-- The error of a loop that the budget does not suffice for. -/
def failure (terms : Terms) : SystemError :=
  terms.refusal.getD .nothingTaken

/-- Whether a call may be answered so, and the terms behind it. -/
inductive Allow : Terms → WriteReply → Terms → Prop where
  | interrupted (terms : Terms) : Allow terms .interrupted terms
  | accepted {terms : Terms} {n : Nat} (positive : 0 < n) (covers : terms.Covers n) :
      Allow terms (.accepted n) (terms.spend n)
  | nothing {terms : Terms} (spent : terms.budget = some 0) (refusal : terms.refusal = none) :
      Allow terms (.accepted 0) terms
  | failed {terms : Terms} {error : SystemError} (spent : terms.budget = some 0)
      (refusal : terms.refusal = some error) : Allow terms (.failed error) terms

theorem within_of_covers {terms : Terms} {n : Nat} (covers : terms.Covers n) :
    Script.within terms.budget n = n := by
  cases hbudget : terms.budget with
  | none => rfl
  | some most => exact Nat.min_eq_right (covers most hbudget)

theorem not_covers_iff {terms : Terms} {n : Nat} :
    ¬ terms.Covers n ↔ ∃ most, terms.budget = some most ∧ most < n := by
  simp [Covers]

theorem covers_spend_iff {terms : Terms} {n m : Nat} (covers : terms.Covers n) :
    (terms.spend n).Covers m ↔ terms.Covers (n + m) := by
  unfold Covers spend Script.rest at *
  cases hbudget : terms.budget with
  | none => simp
  | some most =>
    have := covers most hbudget
    simp
    omega

/-- What is spent on a first part is missing for the rest. -/
theorem within_add {terms : Terms} {n : Nat} (covers : terms.Covers n) (m : Nat) :
    Script.within terms.budget (n + m) = n + Script.within (terms.spend n).budget m := by
  have hrest := Script.within_rest terms.budget n (n + m)
  rw [Nat.add_sub_cancel_left] at hrest
  have hcovers : n ≤ Script.within terms.budget (n + m) := by
    cases hbudget : terms.budget with
    | none => exact Nat.le_add_right n m
    | some most => exact Nat.le_min.mpr ⟨covers most hbudget, Nat.le_add_right n m⟩
  rw [spend, hrest, Nat.add_sub_cancel' hcovers]

theorem spend_zero (terms : Terms) : terms.spend 0 = terms := by
  rw [spend, Script.rest_zero]

theorem spend_spend (terms : Terms) (n m : Nat) :
    (terms.spend n).spend m = terms.spend (n + m) := by
  rw [spend, spend, spend, Script.rest_rest]

def rules : Rules Terms where
  Allow terms _ := terms.Allow
  Flushes terms error := error = terms.flushError

end Terms

/-- In this state the writer will keep to the terms for good. -/
def Writer.Grants (w : Writer σ) (s : σ) (terms : Terms) : Prop :=
  w.Follows Terms.rules s terms

/-- It does not matter how writing is split into stretches. -/
theorem Written.andThen_assoc (written : Written σ) (next last : σ → Written σ) :
    (written.andThen next).andThen last = written.andThen fun s => (next s).andThen last := by
  cases hfirst : written.error with
  | some error => simp only [andThen, hfirst]
  | none =>
    cases hnext : (next written.state).error with
    | some error => simp only [andThen, hfirst, hnext]
    | none => simp only [andThen, hfirst, hnext, List.append_assoc]

/-- A loop that ends well has taken everything. -/
theorem Writer.taken_writeAll {w : Writer σ} {s : σ} {bytes : Bytes}
    (complete : (w.writeAll s bytes).error = none) :
    Calls.taken (w.writeAll s bytes).calls = bytes := by
  have hend := w.writeAll_loopEnd s bytes
  generalize w.writeAll s bytes = written at hend complete
  obtain ⟨calls, s', error⟩ := written
  cases complete
  cases hend with
  | complete progress => exact progress.taken_eq

open Writer (newline)

namespace Writer.Grants

variable {w : Writer σ} {s : σ} {terms : Terms}

/-- What the terms cover is taken to its end. -/
theorem writeAll_of_covers (grants : w.Grants s terms) (bytes : Bytes)
    (covers : terms.Covers bytes.length) :
    (w.writeAll s bytes).error = none ∧
      w.Grants (w.writeAll s bytes).state (terms.spend bytes.length) := by
  fun_induction Writer.writeAll w s bytes generalizing terms with
  | case1 s =>
    exact ⟨rfl, by rwa [List.length_nil, terms.spend_zero]⟩
  | case2 s byte rest s' answer =>
    obtain ⟨behind, allow, -⟩ := grants.write (List.cons_ne_nil byte rest) answer
    cases allow with
    | accepted positive => cases positive
    | nothing spent => cases covers 0 spent
  | case3 s byte rest n s' answer ih =>
    obtain ⟨behind, allow, next⟩ := grants.write (List.cons_ne_nil byte rest) answer
    have within := w.accepted_le s (byte :: rest) (n + 1) (by rw [answer])
    have hrest : n + 1 + (rest.drop n).length = (byte :: rest).length := by
      rw [List.length_cons] at within
      rw [List.length_drop, List.length_cons]
      omega
    cases allow with
    | accepted _ part =>
      obtain ⟨hend, hnext⟩ := ih next ((Terms.covers_spend_iff part).mpr (by rwa [hrest]))
      rw [Terms.spend_spend, hrest] at hnext
      exact ⟨hend, hnext⟩
  | case4 s byte rest s' answer ih =>
    obtain ⟨behind, allow, next⟩ := grants.write (List.cons_ne_nil byte rest) answer
    cases allow
    exact ih next covers
  | case5 s byte rest error s' answer =>
    obtain ⟨behind, allow, -⟩ := grants.write (List.cons_ne_nil byte rest) answer
    cases allow with
    | failed spent => cases covers 0 spent

/-- Of what the terms do not cover, their whole budget is taken. -/
theorem writeAll_of_exceeds (grants : w.Grants s terms) (bytes : Bytes) {most : Nat}
    (budget : terms.budget = some most) (exceeds : most < bytes.length) :
    (w.writeAll s bytes).error = some terms.failure ∧
      Calls.taken (w.writeAll s bytes).calls = bytes.take most := by
  fun_induction Writer.writeAll w s bytes generalizing terms most with
  | case1 s => cases exceeds
  | case2 s byte rest s' answer =>
    obtain ⟨behind, allow, -⟩ := grants.write (List.cons_ne_nil byte rest) answer
    cases allow with
    | accepted positive => cases positive
    | nothing spent refusal =>
      obtain rfl : most = 0 := Option.some.inj (budget.symm.trans spent)
      exact ⟨by simp [Terms.failure, refusal], rfl⟩
  | case3 s byte rest n s' answer ih =>
    obtain ⟨behind, allow, next⟩ := grants.write (List.cons_ne_nil byte rest) answer
    cases allow with
    | accepted _ part =>
      have hpart : n + 1 ≤ most := part most budget
      have hrest : most - (n + 1) < (rest.drop n).length := by
        rw [List.length_cons] at exceeds
        rw [List.length_drop]
        omega
      obtain ⟨hend, htaken⟩ := ih next (by rw [Terms.spend, budget]; rfl) hrest
      refine ⟨hend, ?_⟩
      rw [Written.calls_after, Calls.taken_cons, htaken]
      calc (byte :: rest).take (n + 1) ++ ((byte :: rest).drop (n + 1)).take (most - (n + 1))
          = (byte :: rest).take (n + 1 + (most - (n + 1))) := List.take_add.symm
        _ = (byte :: rest).take most := by rw [Nat.add_sub_cancel' hpart]
  | case4 s byte rest s' answer ih =>
    obtain ⟨behind, allow, next⟩ := grants.write (List.cons_ne_nil byte rest) answer
    cases allow
    exact ih next budget exceeds
  | case5 s byte rest error s' answer =>
    obtain ⟨behind, allow, -⟩ := grants.write (List.cons_ne_nil byte rest) answer
    cases allow with
    | failed spent refusal =>
      obtain rfl : most = 0 := Option.some.inj (budget.symm.trans spent)
      exact ⟨by simp [Terms.failure, refusal], rfl⟩

/-- What is written behind a value: the newline as far as the terms cover it, and then the flush. -/
theorem closing (grants : w.Grants s terms) :
    let closing := (w.writeAll s [newline]).andThen w.flushOnce
    Calls.taken closing.calls = [newline].take (Script.within terms.budget 1) ∧
      closing.error = if terms.Covers 1 then terms.flushError else some terms.failure := by
  by_cases covers : terms.Covers 1
  · obtain ⟨complete, next⟩ := grants.writeAll_of_covers [newline] covers
    rw [Written.andThen_of_ok complete, Terms.within_of_covers covers, if_pos covers]
    refine ⟨?_, next.flush⟩
    rw [Calls.taken_append, taken_writeAll complete]
    rfl
  · obtain ⟨most, budget, exceeds⟩ := Terms.not_covers_iff.mp covers
    obtain ⟨stopped, taken⟩ := grants.writeAll_of_exceeds [newline] budget exceeds
    rw [Written.andThen_of_error stopped, if_neg covers, budget, Script.within,
      Nat.min_eq_left (Nat.le_of_lt exceeds)]
    exact ⟨taken, stopped⟩

/-- Of a line as much is taken as the terms cover, and they settle how it ends. -/
theorem line (grants : w.Grants s terms) (value : Bytes) :
    Calls.taken (w.writeLine s value).calls =
        (value ++ [newline]).take (Script.within terms.budget (value.length + 1)) ∧
      (w.writeLine s value).error =
        if terms.Covers (value.length + 1) then terms.flushError else some terms.failure := by
  rw [Writer.writeLine, Written.andThen_assoc]
  by_cases covers : terms.Covers value.length
  · obtain ⟨complete, next⟩ := grants.writeAll_of_covers value covers
    obtain ⟨taken, ended⟩ := next.closing
    rw [Written.andThen_of_ok complete, Calls.taken_append, taken_writeAll complete, taken,
      Terms.within_add covers, List.take_length_add_append]
    refine ⟨rfl, ?_⟩
    simp only [ended, Terms.covers_spend_iff covers]
    rfl
  · obtain ⟨most, budget, exceeds⟩ := Terms.not_covers_iff.mp covers
    obtain ⟨stopped, taken⟩ := grants.writeAll_of_exceeds value budget exceeds
    have hline : ¬ terms.Covers (value.length + 1) :=
      Terms.not_covers_iff.mpr ⟨most, budget, Nat.lt_succ_of_lt exceeds⟩
    rw [Written.andThen_of_error stopped, if_neg hline, budget, Script.within,
      Nat.min_eq_left (Nat.le_of_lt (Nat.lt_succ_of_lt exceeds)),
      List.take_append_of_le_length (Nat.le_of_lt exceeds)]
    exact ⟨taken, stopped⟩

/-- Without a limit or an error of flushing no line fails. -/
theorem takesLines (grants : w.Grants s terms) (unlimited : terms.budget = none)
    (flushes : terms.flushError = none) : w.TakesLines s := by
  refine Writer.takesLines_iff.mpr fun value _ => ?_
  have covers : terms.Covers (value.length + 1) := by simp [Terms.Covers, unlimited]
  rw [(grants.line value).2, if_pos covers, flushes]

end Writer.Grants

/-- A line is flushed, once, exactly if all of it was taken. -/
theorem Writer.countP_isFlush_writeLine (w : Writer σ) (s : σ) (value : Bytes) :
    (w.writeLine s value).calls.countP Call.isFlush =
      if Calls.taken (w.writeLine s value).calls = value ++ [newline] then 1 else 0 := by
  obtain ⟨before, last, hcalls, -, record⟩ := (w.writeLine_lineEnd s value).exists_record
  rw [hcalls, record.countP_isFlush]
  simp only [record.isFlush_iff]

/-- What a run comes to, without the calls on its writer. -/
structure Account (capacity : Nat) where
  result : Except OutputError Outcome
  buffer : Buffer capacity
  output : Bytes
  flushes : Nat
  queries : List (Invocation × Bytes)
  events : List Event

def Run.account (run : Run σ capacity) : Account capacity where
  result := run.result
  buffer := run.buffer
  output := run.output
  flushes := run.flushes
  queries := run.queries
  events := run.events

theorem account_of_writes (result : Except OutputError Outcome) (buffer : Buffer capacity) (s : σ)
    (calls : List Call) :
    (Run.mk result buffer s (calls.map .call)).account =
      ⟨result, buffer, Calls.taken calls, calls.countP Call.isFlush, [], []⟩ := by
  simp [Run.account, Run.output, Run.flushes, Run.queries, Run.events, Run.calls_of_writes]

/-- The query and what the source noted come before everything else. -/
theorem account_readAttribute (source : Source) (w : Writer σ) (s : σ) (target : Invocation)
    (buffer : Buffer capacity) :
    let reply := source target buffer.bytes
    let behind := (present w s target (buffer.store 0 reply.copied) reply.answer).account
    (readAttribute source w s target buffer).account =
      { behind with
        queries := [(target, buffer.bytes)]
        events := reply.events ++ behind.events } := by
  intro reply behind
  rw [Run.account, queries_readAttribute, events_readAttribute, Run.output, Run.flushes,
    calls_readAttribute]
  rfl

section Alike

variable {w : Writer σ} {s : σ} {v : Writer τ} {t : τ}
  (alike : ∀ value,
    Calls.taken (w.writeLine s value).calls = Calls.taken (v.writeLine t value).calls ∧
      (w.writeLine s value).error = (v.writeLine t value).error)
  (target : Invocation) (buffer : Buffer capacity)
include alike

/-- Two writers that take the same of every line and end it alike. -/
theorem present_account (answer : Except RetrievalError Nat) :
    (present w s target buffer answer).account = (present v t target buffer answer).account := by
  cases answer with
  | error error => rfl
  | ok n =>
    by_cases something : buffer.filled n = []
    · rw [present_empty w s target buffer something, present_empty v t target buffer something]
      rfl
    obtain ⟨taken, ended⟩ := alike (buffer.filled n)
    have flushed : (w.writeLine s (buffer.filled n)).calls.countP Call.isFlush =
        (v.writeLine t (buffer.filled n)).calls.countP Call.isFlush := by
      rw [Writer.countP_isFlush_writeLine, Writer.countP_isFlush_writeLine, taken]
    cases hend : (v.writeLine t (buffer.filled n)).error with
    | none =>
      rw [present_printed w s target buffer something (ended.trans hend),
        present_printed v t target buffer something hend, account_of_writes, account_of_writes,
        taken, flushed]
    | some cause =>
      rw [present_failed w s target buffer something (ended.trans hend),
        present_failed v t target buffer something hend, account_of_writes, account_of_writes,
        taken, flushed]

theorem readAttribute_account (source : Source) :
    (readAttribute source w s target buffer).account =
      (readAttribute source v t target buffer).account := by
  rw [account_readAttribute, account_readAttribute, present_account alike]

end Alike

theorem Writer.Grants.alike {w : Writer σ} {s : σ} {v : Writer τ} {t : τ} {terms : Terms}
    (grants : w.Grants s terms) (others : v.Grants t terms) (value : Bytes) :
    Calls.taken (w.writeLine s value).calls = Calls.taken (v.writeLine t value).calls ∧
      (w.writeLine s value).error = (v.writeLine t value).error := by
  obtain ⟨taken, ended⟩ := grants.line value
  obtain ⟨takenOther, endedOther⟩ := others.line value
  exact ⟨taken.trans takenOther.symm, ended.trans endedOther.symm⟩

/-- What the terms make of a value: the run's output, and whether it counts as printed. -/
theorem Writer.Grants.shown {w : Writer σ} {s : σ} {terms : Terms} (grants : w.Grants s terms)
    {source : Source} {target : Invocation} {buffer : Buffer capacity} {n : Nat}
    (answered : (source target buffer.bytes).answer = .ok n) :
    let value := (buffer.store 0 (source target buffer.bytes).copied).filled n
    let run := readAttribute source w s target buffer
    value ≠ [] →
      run.output = (value ++ [newline]).take (Script.within terms.budget (value.length + 1)) ∧
        ((∃ length, run.result = .ok (.printed length)) ↔
          terms.Covers (value.length + 1) ∧ terms.flushError = none) := by
  intro value run something
  obtain ⟨taken, ended⟩ := grants.line value
  have hcalls : run.calls = (w.writeLine s value).calls := by
    rw [calls_readAttribute, answered, calls_present w s target _ n, if_neg something]
  have printed_iff : (∃ length, run.result = .ok (.printed length)) ↔
      (w.writeLine s value).error = none := by
    rw [result_readAttribute, answered]
    cases hend : (w.writeLine s value).error with
    | none => simp [present_printed w s target _ something hend]
    | some cause => simp [present_failed w s target _ something hend]
  refine ⟨by rw [Run.output, hcalls, taken], ?_⟩
  rw [printed_iff, ended]
  split
  · rename_i covers
    simp [covers]
  · rename_i exceeds
    simp [exceeds]

/-- The terms of a script, whatever its chunks and interruptions. -/
def Script.terms (script : Script) : Terms :=
  ⟨script.budget, script.refusal, script.flushError⟩

namespace Script

theorem covers_allowance (script : Script) (n : Nat) :
    script.terms.Covers (script.allowance n) := by
  intro most budget
  have hbudget : script.budget = some most := budget
  calc script.allowance n ≤ within script.budget n := within_le _ _
    _ = min most n := by rw [hbudget]; rfl
    _ ≤ most := Nat.min_le_left most n

theorem eq_zero_of_within {limit : Option Nat} {n : Nat} (positive : 0 < n)
    (nothing : within limit n = 0) : limit = some 0 := by
  cases limit with
  | none => exact absurd nothing (Nat.ne_of_gt positive)
  | some most =>
    have hmost : most = 0 := by
      rw [within] at nothing
      omega
    rw [hmost]

/-- Only a spent budget keeps a call from taking anything. -/
theorem spent_of_allowance {script : Script} (chunk : script.chunk ≠ some 0) {n : Nat}
    (positive : 0 < n) (nothing : script.allowance n = 0) : script.budget = some 0 := by
  rcases Nat.eq_zero_or_pos (within script.budget n) with hzero | hpos
  · exact eq_zero_of_within positive hzero
  · exact absurd (eq_zero_of_within hpos nothing) chunk

/-- A call of a script is answered as its terms allow. -/
theorem write_allowed {script : Script} (chunk : script.chunk ≠ some 0) {offered : Bytes}
    (something : offered ≠ []) :
    script.terms.Allow (script.write offered).1 (script.write offered).2.terms := by
  cases hleft : script.interruptions with
  | succ left =>
    simp only [write, hleft]
    exact .interrupted _
  | zero =>
    simp only [write, hleft]
    split
    · rename_i nothing
      have spent := spent_of_allowance chunk (List.length_pos_iff.mpr something) nothing
      split
      · rename_i refusal
        exact .nothing spent refusal
      · rename_i error refusal
        exact .failed spent refusal
    · rename_i taken
      exact .accepted (Nat.pos_of_ne_zero taken) (script.covers_allowance _)

theorem chunk_write (script : Script) (offered : Bytes) :
    (script.write offered).2.chunk = script.chunk := by
  unfold write
  split
  · rfl
  · simp only
    split
    · split <;> rfl
    · rfl

theorem grants {script : Script} (chunk : script.chunk ≠ some 0) :
    writer.Grants script script.terms := by
  refine ⟨fun script terms => script.chunk ≠ some 0 ∧ script.terms = terms, ⟨chunk, rfl⟩, ?_⟩
  rintro script _ ⟨chunk, rfl⟩
  refine ⟨rfl, fun offered something => ⟨_, write_allowed chunk something, ?_, rfl⟩⟩
  rwa [← script.chunk_write offered] at chunk

/-- A script whose calls take as many bytes at most as `pace` says, each its own number. -/
def paced (pace : Nat → Nat) : Writer (Nat × Script) where
  write s offered :=
    let (reply, script) := { s.2 with chunk := some (pace s.1) }.write offered
    (reply, (s.1 + 1, script))
  flush s := (s.2.flushError, s)
  patience s _ := s.2.interruptions
  accepted_le _ := accepted_le _
  patience_lt _ := interruptions_lt _

theorem paced_grants {pace : Nat → Nat} (positive : ∀ call, 0 < pace call) (call : Nat)
    (script : Script) : (paced pace).Grants (call, script) script.terms := by
  refine ⟨fun s terms => s.2.terms = terms, rfl, ?_⟩
  rintro ⟨call, script⟩ _ rfl
  refine ⟨rfl, fun offered something => ⟨_, ?_, rfl⟩⟩
  have chunk : ({ script with chunk := some (pace call) } : Script).chunk ≠ some 0 :=
    fun h => Nat.ne_of_gt (positive call) (Option.some.inj h)
  exact write_allowed chunk something

end Script

/-- Two runs on the same terms give the same account of themselves, and a policy makes the same of
both, in whatever pieces the bytes are taken and however often calls are interrupted. Of a value and
its newline each takes as many bytes as the terms cover, and each counts it as printed exactly if
that is all of them and the flush goes well. -/
theorem same_account_on_same_terms {w : Writer σ} {s : σ} {v : Writer τ} {t : τ} {terms : Terms}
    (grants : w.Grants s terms) (others : v.Grants t terms) (source : Source) (target : Invocation)
    (buffer : Buffer capacity) :
    let run := readAttribute source w s target buffer
    let other := readAttribute source v t target buffer
    run.account = other.account ∧
      (∀ policy, run.result.map (·.underPolicy policy) = other.result.map (·.underPolicy policy)) ∧
      ∀ n, (source target buffer.bytes).answer = .ok n →
        let value := (buffer.store 0 (source target buffer.bytes).copied).filled n
        let taken := (value ++ [0x0A]).take (Script.within terms.budget (value.length + 1))
        let whole := terms.Covers (value.length + 1) ∧ terms.flushError = none
        value ≠ [] →
          (run.output = taken ∧ ((∃ length, run.result = .ok (.printed length)) ↔ whole)) ∧
            other.output = taken ∧ ((∃ length, other.result = .ok (.printed length)) ↔ whole) := by
  intro run other
  have same : run.account = other.account :=
    readAttribute_account (grants.alike others) target buffer source
  refine ⟨same, fun policy => ?_, ?_⟩
  · have result : run.result = other.result := congrArg Account.result same
    rw [result]
  · intro n answered value taken whole something
    exact ⟨grants.shown answered something, others.shown answered something⟩

/-- Two writers with room for the value but not for its newline: one takes two bytes a call after
three interruptions, the other one byte more with each call. -/
theorem alike_on_full_device :
    let source : Source := fun _ before => .reporting (asciiBytes "hello") 5 before.length
    let target : Invocation := ⟨asciiBytes "f", asciiBytes "user.note"⟩
    let script : Script := { budget := some 5, refusal := some .noSpace }
    let slow : Script := { script with interruptions := 3, chunk := some 2 }
    let run := readAttribute source Script.writer slow target (Buffer.zeroed 8)
    let other := readAttribute source (Script.paced (· + 1)) (0, script) target (Buffer.zeroed 8)
    run.account = other.account ∧ run.output = asciiBytes "hello" ∧
      run.result = .error ⟨.noSpace⟩ ∧ run.calls.length = 7 ∧ other.calls.length = 4 := by
  intro source target script slow run other
  have grants : Script.writer.Grants slow slow.terms := Script.grants (by decide)
  have others : (Script.paced (· + 1)).Grants (0, script) script.terms :=
    Script.paced_grants Nat.succ_pos 0 script
  obtain ⟨same, -, shown⟩ :=
    same_account_on_same_terms grants others source target (Buffer.zeroed 8)
  obtain ⟨⟨houtput, -⟩, -⟩ := shown 5 rfl (by decide)
  refine ⟨same, houtput, ?_, ?_, ?_⟩
  · cbv
  · cbv
  · cbv

end AttributePrinter
