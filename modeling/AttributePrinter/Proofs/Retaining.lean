import AttributePrinter.Proofs.Reusing

/-!
# What stays in a buffer

Each query overwrites the start of the buffer and leaves the rest, so what a buffer holds at a
place is the byte that was last copied there. A source that reports more than it copied has a run
print such bytes of earlier runs behind its own, as far as the report and the buffer go. A fresh
buffer has nothing but zeros to give away.
-/

namespace AttributePrinter

variable {σ : Type} {capacity : Nat}

/-- The buffer behind the runs of `steps`. -/
def bufferAfter : Buffer capacity → List (Step σ) → Buffer capacity
  | buffer, [] => buffer
  | buffer, step :: rest =>
    bufferAfter (readAttribute step.source step.writer step.state step.target buffer).buffer rest

/-- The replies that the runs of `steps` get. -/
def repliesInTurn : Buffer capacity → List (Step σ) → List Reply
  | _, [] => []
  | buffer, step :: rest =>
    step.source step.target buffer.bytes ::
      repliesInTurn (readAttribute step.source step.writer step.state step.target buffer).buffer
        rest

/-- The bytes that came with a length. -/
def Reply.delivered? (reply : Reply) : Option Bytes :=
  match reply.answer with
  | .ok _ => some reply.copied
  | .error _ => none

/-- The byte at place `i` of the latest bytes delivered that reach so far. -/
def lastDelivered? (replies : List Reply) (i : Nat) : Option UInt8 :=
  (replies.filterMap Reply.delivered?).reverse.findSome? (·[i]?)

/-- Later bytes hide earlier ones. -/
theorem lastDelivered?_cons {reply : Reply}
    (quiet : reply.answer.isOk = true ∨ reply.copied = []) (replies : List Reply) (i : Nat) :
    lastDelivered? (reply :: replies) i = (lastDelivered? replies i).or reply.copied[i]? := by
  cases hanswer : reply.answer with
  | ok n =>
    have hdelivered : reply.delivered? = some reply.copied := by
      simp [Reply.delivered?, hanswer]
    rw [lastDelivered?, List.filterMap_cons_some hdelivered, List.reverse_cons,
      List.findSome?_append, List.findSome?_singleton, lastDelivered?]
  | error error =>
    have hdelivered : reply.delivered? = none := by
      simp [Reply.delivered?, hanswer]
    have hnothing : reply.copied = [] := by
      simpa [hanswer, Except.isOk, Except.toBool] using quiet
    rw [lastDelivered?, List.filterMap_cons_none hdelivered, hnothing, List.getElem?_nil,
      Option.or_none, lastDelivered?]

section Step

variable (source : Source) (w : Writer σ) (s : σ) (target : Invocation) (buffer : Buffer capacity)

theorem buffer_present (answer : Except RetrievalError Nat) :
    (present w s target buffer answer).buffer = buffer := by
  cases answer with
  | error error => rfl
  | ok n =>
    simp only [present]
    split <;> rfl

/-- A run leaves in the buffer what its source copied, and nothing of its own. -/
theorem buffer_readAttribute :
    (readAttribute source w s target buffer).buffer =
      buffer.store 0 (source target buffer.bytes).copied :=
  buffer_present w s target _ _

theorem queries_present (answer : Except RetrievalError Nat) :
    (present w s target buffer answer).queries = [] := by
  cases answer with
  | error error => rfl
  | ok n =>
    simp only [present]
    split
    · rfl
    · simp [Run.queries]

/-- There is one query, and it finds the buffer as the run does. -/
theorem queries_readAttribute :
    (readAttribute source w s target buffer).queries = [(target, buffer.bytes)] := by
  have hrest := queries_present w s target
    (buffer.store 0 (source target buffer.bytes).copied) (source target buffer.bytes).answer
  unfold Run.queries at hrest ⊢
  simp only [actions_readAttribute, List.filterMap_cons]
  rw [filterMap_notes (fun _ => rfl), hrest]

end Step

/-- The writer is offered `value`, or nothing if that is empty: all of it first, and then what is
left of it behind the bytes taken, or a newline behind all of them. -/
structure Run.Offers (run : Run σ capacity) (value : Bytes) : Prop where
  silent : value = [] → run.calls = []
  first : value ≠ [] → ∃ reply rest, run.calls = .write value reply :: rest
  split : ∀ {before offered reply after}, run.calls = before ++ .write offered reply :: after →
    offered ≠ [] ∧ (Calls.taken before ++ offered = value ∨
      Calls.taken before = value ∧ offered = [0x0A])

/-- What was copied is offered with what was behind it before, as far as the answer goes. -/
theorem readAttribute_offers {source : Source} {target : Invocation} {buffer : Buffer capacity}
    {n : Nat} (answered : (source target buffer.bytes).answer = .ok n) (w : Writer σ) (s : σ) :
    (readAttribute source w s target buffer).Offers
      (((source target buffer.bytes).copied ++
        buffer.bytes.drop (source target buffer.bytes).copied.length).take (min n capacity)) := by
  rw [← Buffer.filled_store_eq_take]
  have hcalls := calls_readAttribute source w s target buffer
  rw [answered, calls_present] at hcalls
  generalize (buffer.store 0 _).filled n = value at hcalls ⊢
  by_cases nothing : value = []
  · rw [if_pos nothing] at hcalls
    exact ⟨fun _ => hcalls, fun something => absurd nothing something, fun h => by simp_all⟩
  · rw [if_neg nothing] at hcalls
    have ended := w.writeLine_lineEnd s value
    rw [← hcalls] at ended
    refine ⟨fun h => absurd h nothing, fun _ => ended.first_write nothing, fun h => ?_⟩
    rw [h] at ended
    exact ended.offered_split

/-- The invariant of the runs: a place holds the last byte delivered there, or what it held at
first. -/
theorem getElem?_bufferAfter {buffer : Buffer capacity} {steps : List (Step σ)}
    (quiet : ∀ reply ∈ repliesInTurn buffer steps, reply.answer.isOk = true ∨ reply.copied = [])
    {i : Nat} (h : i < capacity) :
    (bufferAfter buffer steps).bytes[i]? =
      (lastDelivered? (repliesInTurn buffer steps) i).or buffer.bytes[i]? := by
  -- The buffer is general: the steps behind the first start from what that one left.
  induction steps generalizing buffer with
  | nil => rfl
  | cons step rest ih =>
    rw [repliesInTurn] at quiet
    have hstep := quiet _ List.mem_cons_self
    have hrest := ih fun reply hreply => quiet reply (List.mem_cons_of_mem _ hreply)
    rw [bufferAfter, hrest, repliesInTurn, lastDelivered?_cons hstep, buffer_readAttribute,
      buffer.getElem?_store_start _ h, Option.or_assoc]

/-- Each run finds the buffer behind the runs before it. -/
theorem getElem?_readInTurn (buffer : Buffer capacity) (earlier : List (Step σ)) (step : Step σ)
    (later : List (Step σ)) :
    (readInTurn buffer (earlier ++ step :: later))[earlier.length]? =
      some (readAttribute step.source step.writer step.state step.target
        (bufferAfter buffer earlier)) := by
  induction earlier generalizing buffer with
  | nil => rfl
  | cons first rest ih => exact ih _

/-- Through a buffer that is zero at first and sources that copy nothing with an error, each run
finds at every place the last byte delivered there, or zero. If its query is answered, it offers
what was copied and then those bytes, as many as the answer says and the buffer holds, and it is
seen alike through every other buffer and source that make a difference behind those bytes only.
With a fresh buffer there are but zeros behind what was copied. -/
theorem retained_bytes_shown {earlier : List (Step σ)}
    (quiet : ∀ reply ∈ repliesInTurn (Buffer.zeroed capacity) earlier,
      reply.answer.isOk = true ∨ reply.copied = [])
    (step : Step σ) (later : List (Step σ)) :
    let replies := repliesInTurn (Buffer.zeroed capacity) earlier
    let before := bufferAfter (Buffer.zeroed capacity) earlier
    let reply := step.source step.target before.bytes
    let run := readAttribute step.source step.writer step.state step.target before
    let zeros := (Buffer.zeroed capacity).bytes
    let fresh := step.source step.target zeros
    (readInTurn (Buffer.zeroed capacity) (earlier ++ step :: later))[earlier.length]? = some run ∧
      run.queries = [(step.target, before.bytes)] ∧
      (∀ i < capacity, before.bytes[i]? = some ((lastDelivered? replies i).getD 0)) ∧
      (∀ n, reply.answer = .ok n →
        run.Offers
            ((reply.copied ++ before.bytes.drop reply.copied.length).take (min n capacity)) ∧
          step.writer.Replays step.state run.calls run.state ∧
          ∀ (other : Source) (changed : Buffer capacity),
            (other step.target changed.bytes).answer = .ok n →
            (other step.target changed.bytes).events = reply.events →
            (∀ i < min n capacity,
              (changed.store 0 (other step.target changed.bytes).copied).bytes[i]? =
                run.buffer.bytes[i]?) →
            (readAttribute other step.writer step.state step.target changed).seen = run.seen) ∧
      ∀ n, fresh.answer = .ok n →
        (runOnce capacity step.source step.writer step.state step.target).Offers
          ((fresh.copied ++ List.replicate (capacity - fresh.copied.length) 0).take
            (min n capacity)) := by
  intro replies before reply run zeros fresh
  refine ⟨getElem?_readInTurn _ earlier step later, queries_readAttribute .., fun i hi => ?_,
    fun n answered => ⟨readAttribute_offers answered step.writer step.state,
      readAttribute_replays .., ?_⟩,
    fun n answered => ?_⟩
  · rw [getElem?_bufferAfter quiet hi, Buffer.getElem?_zeroed hi]
    cases lastDelivered? replies i <;> rfl
  · intro other changed hanswer hevents agree
    refine readAttribute_agree (hanswer.trans answered.symm) hevents fun m hm i hi => ?_
    obtain rfl : n = m := Except.ok.inj (answered.symm.trans hm)
    rw [agree i hi, buffer_readAttribute]
  · -- A fresh buffer is the shared one before any run, so the same equation holds of it.
    have hoffers := readAttribute_offers answered step.writer step.state
    have hzeros : zeros.drop fresh.copied.length =
        List.replicate (capacity - fresh.copied.length) 0 := List.drop_replicate
    rwa [hzeros] at hoffers

/-- The end of a longer value and a zero are shown behind a short one. -/
theorem hello_shown_behind_hi :
    let earlier := [reportingStep (asciiBytes "hello") 5 .accepting, missingStep]
    let step := reportingStep (asciiBytes "hi") 18446744073709551615 .accepting
    (∀ reply ∈ repliesInTurn (Buffer.zeroed 6) earlier,
        reply.answer.isOk = true ∨ reply.copied = []) ∧
      (bufferAfter (Buffer.zeroed 6) earlier).bytes[2]? = some 108 ∧
      ∃ run, (readInTurn (Buffer.zeroed 6) (earlier ++ [step]))[2]? = some run ∧
        run.Offers (asciiBytes "hillo" ++ [0]) := by
  intro earlier step
  have quiet : ∀ reply ∈ repliesInTurn (Buffer.zeroed 6) earlier,
      reply.answer.isOk = true ∨ reply.copied = [] := by decide +kernel
  obtain ⟨hrun, -, hbefore, hanswered, -⟩ := retained_bytes_shown quiet step []
  obtain ⟨hoffers, -⟩ := hanswered 18446744073709551615 rfl
  have hbyte : (lastDelivered? (repliesInTurn (Buffer.zeroed 6) earlier) 2).getD 0 = 108 := by
    decide +kernel
  refine ⟨quiet, ?_, _, hrun, ?_⟩
  · rw [hbefore 2 (by decide), hbyte]
  · have hvalue : (asciiBytes "hi" ++ (bufferAfter (Buffer.zeroed 6) earlier).bytes.drop 2).take
        (min 18446744073709551615 6) = asciiBytes "hillo" ++ [0] := by decide +kernel
    rw [← hvalue]
    exact hoffers

end AttributePrinter
