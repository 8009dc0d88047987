import AttributePrinter.Writer.Basic

/-!
# What writing leaves on record

The calls of a write loop, told without the writer behind them. As long as nothing fails, each
call offers all that is left and takes some of it or is interrupted. A loop ends when nothing is
left, or with one more call that fails. A line ends in one of three places: inside its value, at
its newline, or with its flush; whatever the place, the bytes taken are a first part of the line
and only the last call can have failed. What a write offers follows from the bytes taken before it.
-/

namespace AttributePrinter

/-- From `bytes` to what is `left` of them, without a failure. -/
inductive Progress : Bytes → List Call → Bytes → Prop where
  | start (bytes : Bytes) : Progress bytes [] bytes
  | accepted {bytes left : Bytes} {calls : List Call} {n : Nat} (positive : 0 < n)
      (within : n ≤ bytes.length) (next : Progress (bytes.drop n) calls left) :
      Progress bytes (.write bytes (.accepted n) :: calls) left
  | interrupted {bytes left : Bytes} {calls : List Call} (more : bytes ≠ [])
      (next : Progress bytes calls left) :
      Progress bytes (.write bytes .interrupted :: calls) left

/-- A write that neither failed nor was a flush. -/
def Call.Proceeds (call : Call) : Prop :=
  call.failure? = none ∧ call.isFlush = false

theorem Call.proceeds_iff {call : Call} :
    call.Proceeds ↔ ∃ offered, call = .write offered .interrupted ∨
      ∃ n, 0 < n ∧ call = .write offered (.accepted n) := by
  constructor
  · rintro ⟨hfailure, hflush⟩
    cases call with
    | flush => cases hflush
    | write offered reply =>
      refine ⟨offered, ?_⟩
      cases reply with
      | interrupted => exact Or.inl rfl
      | failed => cases hfailure
      | accepted n =>
        cases n with
        | zero => cases hfailure
        | succ n => exact Or.inr ⟨n + 1, Nat.succ_pos n, rfl⟩
  · rintro ⟨offered, rfl | ⟨n, positive, rfl⟩⟩
    · exact ⟨rfl, rfl⟩
    · obtain ⟨k, rfl⟩ := Nat.exists_eq_add_one.mpr positive
      exact ⟨rfl, rfl⟩

/-- There are three ways to fail. -/
theorem Call.failure?_eq_some_iff {call : Call} {error : SystemError} :
    call.failure? = some error ↔
      (∃ offered, call = .write offered (.failed error)) ∨
        (∃ offered, call = .write offered (.accepted 0) ∧ error = .nothingTaken) ∨
          call = .flush (some error) := by
  constructor
  · intro h
    cases call with
    | flush answer => exact Or.inr (Or.inr (congrArg Call.flush h))
    | write offered reply =>
      cases reply with
      | interrupted => cases h
      | failed e =>
        cases h
        exact Or.inl ⟨offered, rfl⟩
      | accepted n =>
        cases n with
        | zero =>
          cases h
          exact Or.inr (Or.inl ⟨offered, rfl, rfl⟩)
        | succ n => cases h
  · rintro (⟨offered, rfl⟩ | ⟨offered, rfl, rfl⟩ | rfl) <;> rfl

theorem Call.taken_of_failure {call : Call} {error : SystemError}
    (h : call.failure? = some error) : call.taken = [] := by
  rcases Call.failure?_eq_some_iff.mp h with ⟨offered, rfl⟩ | ⟨offered, rfl, _⟩ | rfl <;> rfl

namespace Progress

variable {bytes left : Bytes} {calls : List Call}

/-- Nothing is lost, taken twice or taken out of turn. -/
theorem taken_append_left (h : Progress bytes calls left) : Calls.taken calls ++ left = bytes := by
  induction h with
  | start bytes => rfl
  | @accepted bytes left calls n _ _ _ ih =>
    calc Calls.taken (.write bytes (.accepted n) :: calls) ++ left
        = bytes.take n ++ (Calls.taken calls ++ left) := by
          simp only [Calls.taken_cons, Call.taken, List.append_assoc]
      _ = bytes.take n ++ bytes.drop n := by rw [ih]
      _ = bytes := List.take_append_drop n bytes
  | interrupted _ _ ih => exact ih

theorem proceeds (h : Progress bytes calls left) : ∀ call ∈ calls, call.Proceeds := by
  induction h with
  | start => simp
  | @accepted _ _ _ n positive _ _ ih =>
    intro call hcall
    rcases List.mem_cons.mp hcall with rfl | hrest
    · exact Call.proceeds_iff.mpr ⟨_, Or.inr ⟨n, positive, rfl⟩⟩
    · exact ih call hrest
  | interrupted _ _ ih =>
    intro call hcall
    rcases List.mem_cons.mp hcall with rfl | hrest
    · exact ⟨rfl, rfl⟩
    · exact ih call hrest

theorem taken_eq (h : Progress bytes calls []) : Calls.taken calls = bytes := by
  simpa using h.taken_append_left

end Progress

/-- How a loop over `bytes` ends, with its calls and its error. -/
inductive LoopEnd (bytes : Bytes) : List Call → Option SystemError → Prop where
  | complete {calls : List Call} (progress : Progress bytes calls []) : LoopEnd bytes calls none
  | stopped {calls : List Call} {left : Bytes} {reply : WriteReply} {error : SystemError}
      (progress : Progress bytes calls left) (more : left ≠ [])
      (fails : (Call.write left reply).failure? = some error) :
      LoopEnd bytes (calls ++ [.write left reply]) (some error)

namespace LoopEnd

variable {bytes : Bytes} {calls : List Call} {error : Option SystemError}

theorem after_accepted {n : Nat} (positive : 0 < n) (within : n ≤ bytes.length)
    (h : LoopEnd (bytes.drop n) calls error) :
    LoopEnd bytes (.write bytes (.accepted n) :: calls) error := by
  cases h with
  | complete progress => exact complete (.accepted positive within progress)
  | stopped progress more fails => exact stopped (.accepted positive within progress) more fails

theorem after_interrupted (nonempty : bytes ≠ []) (h : LoopEnd bytes calls error) :
    LoopEnd bytes (.write bytes .interrupted :: calls) error := by
  cases h with
  | complete progress => exact complete (.interrupted nonempty progress)
  | stopped progress more fails => exact stopped (.interrupted nonempty progress) more fails

end LoopEnd

/-- Every loop of every writer ends so. The induction is on the loop's own measure: a call that
takes bytes leaves fewer of them, and an interrupted one leaves less patience. -/
theorem Writer.writeAll_loopEnd {σ : Type} (w : Writer σ) (s : σ) (bytes : Bytes) :
    LoopEnd bytes (w.writeAll s bytes).calls (w.writeAll s bytes).error := by
  fun_induction Writer.writeAll w s bytes with
  | case1 s => exact .complete (.start [])
  | case2 s byte rest s' hreply =>
    exact .stopped (.start _) (List.cons_ne_nil byte rest) rfl
  | case3 s byte rest n s' hreply ih =>
    have within := w.accepted_le s (byte :: rest) (n + 1) (by rw [hreply])
    exact ih.after_accepted (Nat.succ_pos n) within
  | case4 s byte rest s' hreply ih =>
    exact ih.after_interrupted (List.cons_ne_nil byte rest)
  | case5 s byte rest error s' hreply =>
    exact .stopped (.start _) (List.cons_ne_nil byte rest) rfl

open Writer (newline)

/-- How a line of `value` ends, with its calls and its error. -/
inductive LineEnd (value : Bytes) : List Call → Option SystemError → Prop where
  | inValue {calls : List Call} {error : SystemError} (stopped : LoopEnd value calls (some error)) :
      LineEnd value calls (some error)
  | atNewline {first calls : List Call} {error : SystemError} (whole : Progress value first [])
      (stopped : LoopEnd [newline] calls (some error)) : LineEnd value (first ++ calls) (some error)
  | atFlush {first second : List Call} {error : Option SystemError}
      (whole : Progress value first []) (closed : Progress [newline] second []) :
      LineEnd value (first ++ second ++ [.flush error]) error

theorem Writer.writeLine_lineEnd {σ : Type} (w : Writer σ) (s : σ) (value : Bytes) :
    LineEnd value (w.writeLine s value).calls (w.writeLine s value).error := by
  have hvalue := w.writeAll_loopEnd s value
  unfold Writer.writeLine
  generalize w.writeAll s value = first at hvalue
  obtain ⟨calls, s', error⟩ := first
  cases hvalue with
  | stopped progress more fails =>
    exact .inValue (.stopped progress more fails)
  | complete whole =>
    have hnewline := w.writeAll_loopEnd s' [newline]
    simp only [Written.andThen]
    generalize w.writeAll s' [newline] = second at hnewline
    obtain ⟨calls', s'', error'⟩ := second
    cases hnewline with
    | stopped progress more fails =>
      exact .atNewline whole (.stopped progress more fails)
    | complete closed => exact .atFlush whole closed

/-- The calls of a line up to the last one, and the last one, which is the flush exactly if the
whole line was taken before it. -/
structure LineRecord (value : Bytes) (before : List Call) (last : Call) : Prop where
  proceeds : ∀ call ∈ before, call.Proceeds
  taken_prefix : Calls.taken (before ++ [last]) <+: value ++ [newline]
  isFlush_iff : last.isFlush = true ↔ Calls.taken (before ++ [last]) = value ++ [newline]
  fails_or_isFlush : last.failure? ≠ none ∨ last.isFlush = true

namespace LineRecord

/-- A write that fails behind a first part of the line leaves the rest of it untaken. -/
theorem of_failed_write {value : Bytes} {before : List Call} {offered : Bytes}
    {reply : WriteReply} {error : SystemError} (left : Bytes)
    (proceeds : ∀ call ∈ before, call.Proceeds)
    (split : Calls.taken before ++ left = value ++ [newline]) (more : left ≠ [])
    (fails : (Call.write offered reply).failure? = some error) :
    LineRecord value before (.write offered reply) := by
  have htaken : Calls.taken (before ++ [.write offered reply]) = Calls.taken before := by
    simp [Call.taken_of_failure fails]
  refine ⟨proceeds, ?_, ?_, Or.inl (by simp [fails])⟩
  · rw [htaken]
    exact ⟨left, split⟩
  · rw [htaken]
    constructor
    · intro h
      cases h
    · intro hwhole
      rw [← split] at hwhole
      exact absurd (List.self_eq_append_right.mp hwhole) more

theorem of_flush {value : Bytes} {before : List Call} (proceeds : ∀ call ∈ before, call.Proceeds)
    (whole : Calls.taken before = value ++ [newline]) (error : Option SystemError) :
    LineRecord value before (.flush error) := by
  have htaken : Calls.taken (before ++ [.flush error]) = value ++ [newline] := by
    simpa [Call.taken] using whole
  refine ⟨proceeds, ⟨[], ?_⟩, by simp [htaken, Call.isFlush], Or.inr rfl⟩
  rw [htaken, List.append_nil]

theorem taken_of_flush {value : Bytes} {before : List Call} {error : Option SystemError}
    (h : LineRecord value before (.flush error)) :
    Calls.taken (before ++ [.flush error]) = value ++ [newline] :=
  h.isFlush_iff.mp rfl

theorem countP_isFlush {value : Bytes} {before : List Call} {last : Call}
    (h : LineRecord value before last) :
    (before ++ [last]).countP Call.isFlush = if last.isFlush = true then 1 else 0 := by
  have hbefore : before.countP Call.isFlush = 0 := by
    rw [List.countP_eq_zero]
    intro call hcall
    simp [(h.proceeds call hcall).2]
  rw [List.countP_append, hbefore, List.countP_singleton, Nat.zero_add]

end LineRecord

theorem LineEnd.exists_record {value : Bytes} {calls : List Call} {error : Option SystemError}
    (h : LineEnd value calls error) :
    ∃ before last, calls = before ++ [last] ∧ last.failure? = error ∧
      LineRecord value before last := by
  cases h with
  | inValue stopped =>
    cases stopped with
    | @stopped before left reply error progress more fails =>
      refine ⟨before, .write left reply, rfl, fails, ?_⟩
      refine .of_failed_write (left ++ [newline]) progress.proceeds ?_ (by simp) fails
      rw [← List.append_assoc, progress.taken_append_left]
  | @atNewline first _ _ whole stopped =>
    cases stopped with
    | @stopped before left reply error progress more fails =>
      refine ⟨first ++ before, .write left reply, (List.append_assoc ..).symm, fails, ?_⟩
      refine .of_failed_write left ?_ ?_ more fails
      · exact List.forall_mem_append.mpr ⟨whole.proceeds, progress.proceeds⟩
      · rw [Calls.taken_append, whole.taken_eq, List.append_assoc, progress.taken_append_left]
  | @atFlush first second error whole closed =>
    refine ⟨first ++ second, .flush error, rfl, rfl, .of_flush ?_ ?_ error⟩
    · exact List.forall_mem_append.mpr ⟨whole.proceeds, closed.proceeds⟩
    · rw [Calls.taken_append, whole.taken_eq, closed.taken_eq]

namespace Progress

variable {bytes left offered : Bytes} {before after : List Call} {reply : WriteReply}

/-- Nothing has happened, or the first write offered everything. -/
theorem first_write {calls : List Call} (h : Progress bytes calls left) :
    calls = [] ∧ left = bytes ∨ ∃ reply rest, calls = .write bytes reply :: rest := by
  cases h with
  | start => exact Or.inl ⟨rfl, rfl⟩
  | accepted => exact Or.inr ⟨_, _, rfl⟩
  | interrupted => exact Or.inr ⟨_, _, rfl⟩

theorem of_append (h : Progress bytes (before ++ after) left) :
    ∃ middle, Progress bytes before middle ∧ Progress middle after left := by
  induction before generalizing bytes with
  | nil => exact ⟨bytes, .start bytes, h⟩
  | cons call before ih =>
    cases h with
    | accepted positive within next =>
      obtain ⟨middle, first, second⟩ := ih next
      exact ⟨middle, .accepted positive within first, second⟩
    | interrupted more next =>
      obtain ⟨middle, first, second⟩ := ih next
      exact ⟨middle, .interrupted more first, second⟩

/-- Each write offers all that is left. -/
theorem to_write (h : Progress bytes (before ++ .write offered reply :: after) left) :
    Progress bytes before offered ∧ offered ≠ [] := by
  obtain ⟨middle, first, second⟩ := h.of_append
  cases second with
  | @accepted _ _ _ n positive within =>
    refine ⟨first, ?_⟩
    rintro rfl
    simp only [List.length_nil] at within
    omega
  | interrupted more => exact ⟨first, more⟩

end Progress

/-- A call of two stretches stands in the first one or in the second. -/
theorem split_at_call {first second before after : List Call} {call : Call}
    (h : before ++ call :: after = first ++ second) :
    (∃ rest, first = before ++ call :: rest) ∨
      ∃ between, before = first ++ between ∧ second = between ++ call :: after := by
  rcases List.append_eq_append_iff.mp h with ⟨between, hfirst, hsecond⟩ | hsecond
  · cases between with
    | nil =>
      rw [List.append_nil] at hfirst
      exact Or.inr ⟨[], by rw [hfirst, List.append_nil], hsecond.symm⟩
    | cons call' between =>
      obtain ⟨rfl, -⟩ := List.cons.inj hsecond
      exact Or.inl ⟨between, hfirst⟩
  · exact Or.inr hsecond

section ToWrite

variable {offered : Bytes} {before after : List Call} {reply : WriteReply}
  {error : Option SystemError}

theorem LoopEnd.to_write {bytes : Bytes}
    (h : LoopEnd bytes (before ++ .write offered reply :: after) error) :
    Progress bytes before offered ∧ offered ≠ [] := by
  generalize hcalls : before ++ .write offered reply :: after = calls at h
  cases h with
  | complete progress =>
    subst hcalls
    exact progress.to_write
  | stopped progress more fails =>
    rcases split_at_call hcalls with ⟨rest, rfl⟩ | ⟨between, rfl, hlast⟩
    · exact progress.to_write
    · obtain ⟨rfl, hcall⟩ | ⟨-, hcall⟩ := List.append_eq_singleton_iff.mp hlast.symm
      · cases hcall
        rw [List.append_nil]
        exact ⟨progress, more⟩
      · cases hcall

/-- A line starts with a write of the whole value. -/
theorem LineEnd.first_write {value : Bytes} {calls : List Call} (h : LineEnd value calls error)
    (nonempty : value ≠ []) : ∃ reply rest, calls = .write value reply :: rest := by
  have ofWhole : ∀ {first}, Progress value first [] → ∀ more,
      ∃ reply rest, first ++ more = .write value reply :: rest := by
    intro first whole more
    rcases whole.first_write with ⟨-, nothing⟩ | ⟨reply, rest, rfl⟩
    · exact absurd nothing.symm nonempty
    · exact ⟨reply, rest ++ more, rfl⟩
  cases h with
  | inValue stopped =>
    cases stopped with
    | @stopped before left reply error progress more fails =>
      rcases progress.first_write with ⟨rfl, rfl⟩ | ⟨reply', rest, rfl⟩
      · exact ⟨reply, [], rfl⟩
      · exact ⟨reply', rest ++ [.write left reply], rfl⟩
  | atNewline whole stopped => exact ofWhole whole _
  | @atFlush first second error whole closed =>
    rw [List.append_assoc]
    exact ofWhole whole _

/-- A write of a line is reached within the value, or within the newline behind the whole of it. -/
theorem LineEnd.to_write {value : Bytes}
    (h : LineEnd value (before ++ .write offered reply :: after) error) :
    offered ≠ [] ∧ (Progress value before offered ∨
      ∃ first second, before = first ++ second ∧ Progress value first [] ∧
        Progress [newline] second offered) := by
  generalize hcalls : before ++ .write offered reply :: after = calls at h
  cases h with
  | inValue stopped =>
    subst hcalls
    obtain ⟨progress, more⟩ := stopped.to_write
    exact ⟨more, Or.inl progress⟩
  | @atNewline first calls error whole stopped =>
    rcases split_at_call hcalls with ⟨rest, rfl⟩ | ⟨between, rfl, rfl⟩
    · obtain ⟨progress, more⟩ := whole.to_write
      exact ⟨more, Or.inl progress⟩
    · obtain ⟨progress, more⟩ := stopped.to_write
      exact ⟨more, Or.inr ⟨first, between, rfl, whole, progress⟩⟩
  | @atFlush first second error whole closed =>
    rw [List.append_assoc] at hcalls
    rcases split_at_call hcalls with ⟨rest, rfl⟩ | ⟨between, rfl, hclosing⟩
    · obtain ⟨progress, more⟩ := whole.to_write
      exact ⟨more, Or.inl progress⟩
    · rcases split_at_call hclosing.symm with ⟨rest, rfl⟩ | ⟨behind, -, hflush⟩
      · obtain ⟨progress, more⟩ := closed.to_write
        exact ⟨more, Or.inr ⟨first, between, rfl, whole, progress⟩⟩
      · obtain ⟨-, hcall⟩ | ⟨-, hcall⟩ := List.append_eq_singleton_iff.mp hflush.symm
        · cases hcall
        · cases hcall

/-- What was taken and what is offered make up the value, or the newline is offered behind it. -/
theorem LineEnd.offered_split {value : Bytes}
    (h : LineEnd value (before ++ .write offered reply :: after) error) :
    offered ≠ [] ∧ (Calls.taken before ++ offered = value ∨
      Calls.taken before = value ∧ offered = [newline]) := by
  obtain ⟨more, inValue | ⟨first, second, rfl, whole, closing⟩⟩ := h.to_write
  · exact ⟨more, Or.inl inValue.taken_append_left⟩
  · obtain ⟨nothing, hnewline⟩ | ⟨-, hnothing⟩ :=
      List.append_eq_singleton_iff.mp closing.taken_append_left
    · refine ⟨more, Or.inr ⟨?_, hnewline⟩⟩
      rw [Calls.taken_append, nothing, List.append_nil, whole.taken_eq]
    · exact absurd hnothing more

/-- A write of a line offers what is left of the value or, behind the whole of it, the newline. -/
theorem LineEnd.offered_eq {value : Bytes}
    (h : LineEnd value (before ++ .write offered reply :: after) error) :
    (Calls.taken before).length ≤ value.length ∧
      offered = if (Calls.taken before).length < value.length
        then value.drop (Calls.taken before).length else [newline] := by
  obtain ⟨more, rfl | ⟨rfl, hnewline⟩⟩ := h.offered_split
  · have hlength : (Calls.taken before).length < (Calls.taken before ++ offered).length := by
      have hpositive := List.length_pos_iff.mpr more
      rw [List.length_append]
      omega
    exact ⟨Nat.le_of_lt hlength, by rw [if_pos hlength, List.drop_left]⟩
  · exact ⟨Nat.le_refl _, by rw [if_neg (Nat.lt_irrefl _), hnewline]⟩

/-- A line that does not fail is taken as a whole. -/
theorem LineEnd.taken_of_ok {value : Bytes} {calls : List Call} (h : LineEnd value calls none) :
    Calls.taken calls = value ++ [newline] := by
  cases h with
  | atFlush whole closed =>
    rw [Calls.taken_append, Calls.taken_append, whole.taken_eq, closed.taken_eq]
    exact List.append_nil _

theorem LineEnd.to_flush {value : Bytes} {answer : Option SystemError}
    (h : LineEnd value (before ++ .flush answer :: after) error) :
    Calls.taken before = value ++ [newline] := by
  obtain ⟨writes, last, hcalls, -, record⟩ := h.exists_record
  rcases split_at_call hcalls with ⟨rest, rfl⟩ | ⟨between, rfl, hlast⟩
  · have hflush := (record.proceeds (.flush answer) (by simp)).2
    cases hflush
  · obtain ⟨rfl, hcall⟩ | ⟨-, hcall⟩ := List.append_eq_singleton_iff.mp hlast.symm
    · cases hcall
      simpa [Call.taken] using record.taken_of_flush
    · cases hcall

/-- An interrupted write is not the last call, and the call behind it offers the same. -/
theorem LineEnd.repeated {value : Bytes}
    (h : LineEnd value (before ++ .write offered .interrupted :: after) error) :
    ∃ answer rest, after = .write offered answer :: rest := by
  obtain ⟨hlength, hoffered⟩ := h.offered_eq
  have htaken : Calls.taken (before ++ [.write offered .interrupted]) = Calls.taken before := by
    simp [Call.taken]
  rcases after with _ | ⟨call, rest⟩
  · obtain ⟨writes, last, hcalls, -, record⟩ := h.exists_record
    obtain ⟨rfl, hlast⟩ := List.append_inj' hcalls rfl
    cases hlast
    rcases record.fails_or_isFlush with hfails | hflush
    · exact absurd rfl hfails
    · cases hflush
  · rw [List.append_cons] at h
    cases call with
    | write again answer =>
      have hagain := h.offered_eq.2
      rw [htaken, ← hoffered] at hagain
      exact ⟨answer, rest, by rw [hagain]⟩
    | flush answer =>
      have hwhole := h.to_flush
      rw [htaken] at hwhole
      rw [hwhole, List.length_append, List.length_singleton] at hlength
      omega

end ToWrite

end AttributePrinter
