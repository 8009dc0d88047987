import AttributePrinter.Proofs.Rationing
import Mathlib.Algebra.Order.Floor.Div

/-!
# How many calls a line takes

A writer at a fixed pace interrupts its first calls, then takes the same number of bytes with each
call until its budget is spent, and fails from there on. The number of its writes follows from the
pace and the length of the value, whether the line fails in the value, at its newline, at the flush
or not at all. What a write offers follows from the bytes taken before it, for every writer: an
interrupted write is repeated as it was, and a byte once taken is never offered again.
-/

namespace AttributePrinter

/-- How a writer answers from now on. A missing `chunk` or `budget` is no limit; a call that may
take something takes at least one byte. -/
structure Pace where
  interruptions : Nat
  chunk : Option Nat
  budget : Option Nat
  chunk_ne_zero : chunk ≠ some 0

theorem Script.within_pos {limit : Option Nat} (limit_ne_zero : limit ≠ some 0) {n : Nat}
    (more : 0 < n) : 0 < within limit n :=
  Nat.pos_of_ne_zero fun nothing => limit_ne_zero (eq_zero_of_within more nothing)

/-- The number of calls that take `n` bytes altogether. -/
def rounds : Option Nat → Nat → Nat
  | none, n => if 0 < n then 1 else 0
  | some most, n => n ⌈/⌉ most

@[simp]
theorem rounds_zero (chunk : Option Nat) : rounds chunk 0 = 0 := by
  cases chunk with
  | none => rfl
  | some most => exact zero_ceilDiv most

/-- The first call takes as much as it may, and the others take the rest. -/
theorem rounds_eq_succ {chunk : Option Nat} (positive : chunk ≠ some 0) {n : Nat} (more : 0 < n) :
    rounds chunk n = rounds chunk (n - Script.within chunk n) + 1 := by
  cases chunk with
  | none => simp [rounds, Script.within, more]
  | some most =>
    have hmost : 0 < most := Nat.pos_of_ne_zero fun hzero => positive (congrArg some hzero)
    simp only [rounds, Script.within, Nat.ceilDiv_eq_add_pred_div]
    by_cases hlast : n ≤ most
    · have hrest : n - min most n = 0 := by omega
      have hone : n + most - 1 = n - 1 + most := by omega
      rw [hrest, hone, Nat.add_div_right _ hmost, Nat.div_eq_of_lt (by omega),
        Nat.div_eq_of_lt (by omega)]
    · have hrest : n + most - 1 = n - min most n + most - 1 + most := by omega
      rw [hrest, Nat.add_div_right _ hmost]

theorem rounds_one {chunk : Option Nat} (positive : chunk ≠ some 0) : rounds chunk 1 = 1 := by
  have hatLeast := Script.within_pos positive Nat.one_pos
  have hatMost := Script.within_le chunk 1
  have hrest : 1 - Script.within chunk 1 = 0 := by omega
  rw [rounds_eq_succ positive Nat.one_pos, hrest, rounds_zero]

namespace Pace

/-- What is taken of `n` bytes before a call fails. -/
def share (pace : Pace) (n : Nat) : Nat :=
  Script.within pace.budget n

def spend (pace : Pace) (n : Nat) : Pace :=
  { pace with budget := Script.rest pace.budget n }

/-- Behind a loop that took `n` bytes no interruption is left. -/
def behind (pace : Pace) (n : Nat) : Pace :=
  { pace.spend n with interruptions := 0 }

/-- Whether a call that offers `offered` bytes is answered so, and the pace behind it. -/
inductive Allow : Pace → Nat → WriteReply → Pace → Prop where
  | interrupted {pace : Pace} {offered left : Nat} (fresh : pace.interruptions = left + 1) :
      Allow pace offered .interrupted { pace with interruptions := left }
  | accepted {pace : Pace} {offered n : Nat} (calm : pace.interruptions = 0)
      (left : pace.budget ≠ some 0) (most : n = Script.within pace.chunk (pace.share offered)) :
      Allow pace offered (.accepted n) (pace.spend n)
  | nothing {pace : Pace} {offered : Nat} (calm : pace.interruptions = 0)
      (spent : pace.budget = some 0) : Allow pace offered (.accepted 0) pace
  | failed {pace : Pace} {offered : Nat} (error : SystemError) (calm : pace.interruptions = 0)
      (spent : pace.budget = some 0) : Allow pace offered (.failed error) pace

theorem share_le (pace : Pace) (n : Nat) : pace.share n ≤ n :=
  Script.within_le pace.budget n

theorem share_pos {pace : Pace} (left : pace.budget ≠ some 0) {n : Nat} (more : 0 < n) :
    0 < pace.share n :=
  Script.within_pos left more

theorem share_of_spent {pace : Pace} (spent : pace.budget = some 0) (n : Nat) :
    pace.share n = 0 := by
  rw [share, spent]
  exact Nat.zero_min n

/-- Spending on a part of `n` bytes leaves that much less for the others. -/
theorem share_spend (pace : Pace) (part n : Nat) :
    (pace.spend part).share (n - part) = pace.share n - part :=
  Script.within_rest pace.budget part n

theorem spend_spend (pace : Pace) (n m : Nat) : (pace.spend n).spend m = pace.spend (n + m) := by
  simp only [spend, Script.rest_rest]

/-- A pace leaves open how a flush ends. -/
def rules : Rules Pace where
  Allow := Allow
  Flushes _ _ := True

end Pace

variable {σ : Type} {capacity : Nat}

/-- In this state the writer will keep to the pace for good. -/
def Writer.Keeps (w : Writer σ) (s : σ) (pace : Pace) : Prop :=
  w.Follows Pace.rules s pace

/-- A loop over `n` bytes at a pace: the number of its calls, of which the last one failed if not
all is taken, and otherwise the pace behind it. -/
structure LoopCount (w : Writer σ) (pace : Pace) (n : Nat) (written : Written σ) : Prop where
  calls : written.calls.length = pace.interruptions + rounds pace.chunk (pace.share n) +
    if pace.share n < n then 1 else 0
  complete_iff : written.error = none ↔ pace.share n = n
  keeps : pace.share n = n → w.Keeps written.state (pace.behind n)

namespace LoopCount

variable {w : Writer σ} {pace : Pace} {n : Nat} {written : Written σ} (call : Call)

theorem of_nothing {s : σ} (keeps : w.Keeps s pace) (calm : pace.interruptions = 0) :
    LoopCount w pace 0 ⟨[], s, none⟩ := by
  have hshare : pace.share 0 = 0 := Nat.le_zero.mp (pace.share_le 0)
  have hpace : pace.behind 0 = pace := by
    obtain ⟨_, chunk, budget, _⟩ := pace
    cases calm
    simp [Pace.behind, Pace.spend]
  refine ⟨?_, by simp [hshare], fun _ => by rwa [hpace]⟩
  simp [hshare, calm]

theorem of_failure {s : σ} {error : SystemError} (calm : pace.interruptions = 0)
    (spent : pace.budget = some 0) (more : 0 < n) :
    LoopCount w pace n ⟨[call], s, some error⟩ := by
  have hshare := pace.share_of_spent spent n
  refine ⟨?_, ?_, ?_⟩
  · simp [hshare, calm, more]
  · rw [hshare]
    exact iff_of_false (by simp) (by omega)
  · intro hwhole
    omega

theorem after_interrupted {left : Nat} (fresh : pace.interruptions = left + 1)
    (h : LoopCount w { pace with interruptions := left } n written) :
    LoopCount w pace n (written.after call) := by
  refine ⟨?_, h.complete_iff, h.keeps⟩
  have hcalls := h.calls
  change written.calls.length = left + rounds pace.chunk (pace.share n) +
    (if pace.share n < n then 1 else 0) at hcalls
  rw [Written.calls_after, List.length_cons, hcalls, fresh]
  omega

/-- A part that is taken is one call, and what is left of the share takes the others. -/
theorem after_accepted {part : Nat} (left : pace.budget ≠ some 0)
    (most : part = Script.within pace.chunk (pace.share n)) (more : 0 < n)
    (h : LoopCount w (pace.spend part) (n - part) written) :
    LoopCount w pace n (written.after call) := by
  obtain ⟨calls, complete_iff, keeps⟩ := h
  have hpart : part ≤ pace.share n := most ▸ Script.within_le pace.chunk (pace.share n)
  have hshare : pace.share n ≤ n := pace.share_le n
  have hrounds := rounds_eq_succ pace.chunk_ne_zero (pace.share_pos left more)
  rw [← most] at hrounds
  rw [pace.share_spend] at calls complete_iff keeps
  refine ⟨?_, ?_, ?_⟩
  · change written.calls.length = pace.interruptions + rounds pace.chunk (pace.share n - part) +
      (if pace.share n - part < n - part then 1 else 0) at calls
    rw [Written.calls_after, List.length_cons, calls, hrounds]
    split <;> split <;> omega
  · refine complete_iff.trans ?_
    omega
  · intro whole
    have hnext := keeps (by omega)
    rwa [Pace.behind, pace.spend_spend, Nat.add_sub_cancel' (by omega)] at hnext

/-- A byte takes one call, whether it is taken or refused. -/
theorem calls_of_byte (h : LoopCount w pace 1 written) (calm : pace.interruptions = 0) :
    written.calls.length = 1 := by
  have hcalls := h.calls
  rcases Nat.le_one_iff_eq_zero_or_eq_one.mp (pace.share_le 1) with hnone | hall
  · simpa [hnone, calm] using hcalls
  · simpa [hall, calm, rounds_one pace.chunk_ne_zero] using hcalls

end LoopCount

/-- The induction is on the loop's own measure. Interruptions are waited for with the first bytes,
so a loop over nothing must have none of them left. -/
theorem Writer.Keeps.writeAll {w : Writer σ} {s : σ} {pace : Pace} (keeps : w.Keeps s pace)
    (bytes : Bytes) (begun : bytes ≠ [] ∨ pace.interruptions = 0) :
    LoopCount w pace bytes.length (w.writeAll s bytes) := by
  fun_induction Writer.writeAll w s bytes generalizing pace with
  | case1 s => exact .of_nothing keeps (begun.resolve_left (by simp))
  | case2 s byte rest s' answer =>
    obtain ⟨behind, allow, -⟩ := keeps.write (List.cons_ne_nil byte rest) answer
    cases allow with
    | accepted calm left most =>
      have positive := Script.within_pos pace.chunk_ne_zero
        (pace.share_pos left (Nat.succ_pos rest.length))
      exact absurd most (Nat.ne_of_lt positive)
    | nothing calm spent => exact .of_failure _ calm spent (Nat.succ_pos _)
  | case3 s byte rest n s' answer ih =>
    obtain ⟨behind, allow, next⟩ := keeps.write (List.cons_ne_nil byte rest) answer
    cases allow with
    | accepted calm left most =>
      have hrest := ih next (Or.inr calm)
      rw [List.length_drop] at hrest
      refine .after_accepted _ left most (Nat.succ_pos _) ?_
      simpa using hrest
  | case4 s byte rest s' answer ih =>
    obtain ⟨behind, allow, next⟩ := keeps.write (List.cons_ne_nil byte rest) answer
    cases allow with
    | interrupted fresh =>
      exact .after_interrupted _ fresh (ih next (Or.inl (List.cons_ne_nil byte rest)))
  | case5 s byte rest error s' answer =>
    obtain ⟨behind, allow, -⟩ := keeps.write (List.cons_ne_nil byte rest) answer
    cases allow with
    | failed _ calm spent => exact .of_failure _ calm spent (Nat.succ_pos _)

/-- The number of writes among the calls. -/
def Calls.writes (calls : List Call) : Nat :=
  calls.countP fun call => !call.isFlush

theorem Calls.writes_append (calls more : List Call) :
    Calls.writes (calls ++ more) = Calls.writes calls + Calls.writes more :=
  List.countP_append

theorem Writer.writes_writeAll (w : Writer σ) (s : σ) (bytes : Bytes) :
    Calls.writes (w.writeAll s bytes).calls = (w.writeAll s bytes).calls.length := by
  have hwrites : ∀ call ∈ (w.writeAll s bytes).calls, call.isFlush = false := by
    have hend := w.writeAll_loopEnd s bytes
    generalize (w.writeAll s bytes).calls = calls, (w.writeAll s bytes).error = error at hend
    cases hend with
    | complete progress => exact fun call hcall => (progress.proceeds call hcall).2
    | stopped progress more fails =>
      intro call hcall
      rcases List.mem_append.mp hcall with hbefore | hlast
      · exact (progress.proceeds call hbefore).2
      · rw [List.mem_singleton.mp hlast]
        rfl
  rw [Calls.writes, List.countP_eq_length]
  intro call hcall
  simp [hwrites call hcall]

/-- Whether there is a flush or not, it is no write. -/
theorem Writer.writes_flushed (w : Writer σ) (written : Written σ) :
    Calls.writes (written.andThen w.flushOnce).calls = Calls.writes written.calls := by
  cases hend : written.error with
  | some error => rw [Written.andThen_of_error hend]
  | none =>
    rw [Written.andThen_of_ok hend, Calls.writes_append]
    rfl

open Writer (newline)

/-- The newline takes one write, which may fail; if it is not reached, a write has failed before. -/
theorem Writer.Keeps.writeLine {w : Writer σ} {s : σ} {pace : Pace} (keeps : w.Keeps s pace)
    {value : Bytes} (something : value ≠ []) :
    Calls.writes (w.writeLine s value).calls =
      pace.interruptions + rounds pace.chunk (pace.share value.length) + 1 := by
  have hvalue := keeps.writeAll value (Or.inl something)
  have hshare := pace.share_le value.length
  rw [Writer.writeLine, w.writes_flushed]
  by_cases whole : pace.share value.length = value.length
  · have hnewline := (hvalue.keeps whole).writeAll [newline] (Or.inr rfl)
    have hone := hnewline.calls_of_byte rfl
    rw [Written.andThen_of_ok (hvalue.complete_iff.mpr whole), Calls.writes_append,
      w.writes_writeAll, w.writes_writeAll, hone, hvalue.calls, if_neg (by omega), Nat.add_zero]
  · obtain ⟨error, stopped⟩ := Option.ne_none_iff_exists'.mp (mt hvalue.complete_iff.mp whole)
    rw [Written.andThen_of_error stopped, w.writes_writeAll, hvalue.calls, if_pos (by omega)]

/-- At a pace a line takes as many writes as there are interruptions and rounds, and one more, which
is that of the newline or the one that fails before it. Each write offers what is left of the value
behind the bytes taken so far, or the newline behind all of them; an interrupted one is repeated. -/
theorem line_written_in_rounds {w : Writer σ} {s : σ} {pace : Pace} (keeps : w.Keeps s pace)
    {source : Source} {target : Invocation} {buffer : Buffer capacity} {n : Nat}
    (answered : (source target buffer.bytes).answer = .ok n) (something : 0 < min n capacity) :
    let value := (buffer.store 0 (source target buffer.bytes).copied).filled n
    let run := readAttribute source w s target buffer
    value.length = min n capacity ∧
      Calls.writes run.calls =
        pace.interruptions + rounds pace.chunk (Script.within pace.budget value.length) + 1 ∧
      ∀ before offered reply after, run.calls = before ++ .write offered reply :: after →
        let taken := (Calls.taken before).length
        (taken < value.length ∧ offered = value.drop taken ∧
            offered.length = value.length - taken ∨
          taken = value.length ∧ offered = [0x0A] ∧ offered.length = 1) ∧
        (reply = .interrupted → ∃ answer rest, after = .write offered answer :: rest) := by
  intro value run
  have hlength : value.length = min n capacity := Buffer.length_filled _ n
  have nonempty : value ≠ [] := (Buffer.filled_ne_nil_iff _ n).mpr something
  have hcalls : run.calls = (w.writeLine s value).calls := by
    rw [calls_readAttribute, answered, calls_present w s target _ n, if_neg nonempty]
  refine ⟨hlength, ?_, ?_⟩
  · rw [hcalls, keeps.writeLine nonempty, Pace.share]
  · intro before offered reply after hsplit taken
    have hend := w.writeLine_lineEnd s value
    rw [← hcalls, hsplit] at hend
    obtain ⟨hle, hoffered⟩ := hend.offered_eq
    refine ⟨?_, ?_⟩
    · by_cases hless : taken < value.length
      · rw [if_pos hless] at hoffered
        exact Or.inl ⟨hless, hoffered, by rw [hoffered, List.length_drop]⟩
      · rw [if_neg hless] at hoffered
        exact Or.inr ⟨by omega, hoffered, by rw [hoffered]; rfl⟩
    · rintro rfl
      exact hend.repeated

/-- The pace of a script. -/
def Script.pace (script : Script) (chunk : script.chunk ≠ some 0) : Pace :=
  ⟨script.interruptions, script.chunk, script.budget, chunk⟩

theorem Script.keeps {script : Script} (chunk : script.chunk ≠ some 0) :
    writer.Keeps script (script.pace chunk) := by
  refine ⟨fun script pace => pace.interruptions = script.interruptions ∧
    pace.chunk = script.chunk ∧ pace.budget = script.budget, ⟨rfl, rfl, rfl⟩, ?_⟩
  rintro script pace ⟨interruptions, chunk, budget⟩
  refine ⟨trivial, fun offered something => ?_⟩
  have more : 0 < offered.length := List.length_pos_iff.mpr something
  have hallowance : script.allowance offered.length =
      within pace.chunk (pace.share offered.length) := by
    rw [allowance, chunk, Pace.share, budget]
  cases hleft : script.interruptions with
  | succ left =>
    simp only [writer, write, hleft]
    exact ⟨_, .interrupted (interruptions.trans hleft), rfl, chunk, budget⟩
  | zero =>
    have calm : pace.interruptions = 0 := interruptions.trans hleft
    simp only [writer, write, hleft, hallowance]
    by_cases spent : pace.budget = some 0
    · have nothing : within pace.chunk (pace.share offered.length) = 0 := by
        rw [pace.share_of_spent spent]
        exact Nat.le_zero.mp (within_le pace.chunk 0)
      simp only [nothing, ↓reduceIte]
      cases script.refusal with
      | none => exact ⟨pace, .nothing calm spent, interruptions, chunk, budget⟩
      | some error => exact ⟨pace, .failed error calm spent, interruptions, chunk, budget⟩
    · have taken := within_pos pace.chunk_ne_zero (pace.share_pos spent more)
      rw [if_neg (Nat.ne_of_gt taken)]
      exact ⟨_, .accepted calm spent rfl, calm, chunk, by rw [Pace.spend, budget]⟩

/-- Interrupted three times, then two bytes a call, and full right behind the value. -/
theorem seven_writes_on_full_device :
    let source : Source := fun _ before => .reporting (asciiBytes "hello") 5 before.length
    let target : Invocation := ⟨asciiBytes "f", asciiBytes "user.note"⟩
    let script : Script :=
      { interruptions := 3, chunk := some 2, budget := some 5, refusal := some .noSpace }
    let run := readAttribute source Script.writer script target (Buffer.zeroed 8)
    Script.writer.Keeps script (script.pace (by decide)) ∧
      Calls.writes run.calls = 3 + 5 ⌈/⌉ 2 + 1 ∧ run.result = .error ⟨.noSpace⟩ := by
  intro source target script run
  have keeps : Script.writer.Keeps script (script.pace (by decide)) := Script.keeps (by decide)
  have answered : (source target (Buffer.zeroed 8).bytes).answer = .ok 5 := rfl
  obtain ⟨hlength, hwrites, -⟩ := line_written_in_rounds keeps answered (by decide)
  refine ⟨keeps, ?_, by cbv⟩
  rw [hlength] at hwrites
  exact hwrites

end AttributePrinter
