import AttributePrinter.Proofs.Writing

/-!
# The writer's own answers

The answers on record are those of the writer: it gives them again, from state to state, if the
calls are made once more. Together with the way that a line ends this settles the record, so whether
a line fails can be told from the writer's answers alone.
-/

namespace AttributePrinter

open Writer (newline)

/-- The writer answers the calls so, one after another, from the first state to the last. -/
inductive Writer.Replays {σ : Type} (w : Writer σ) : σ → List Call → σ → Prop where
  | start (s : σ) : w.Replays s [] s
  | write {s s' last : σ} {offered : Bytes} {reply : WriteReply} {calls : List Call}
      (answer : w.write s offered = (reply, s')) (next : w.Replays s' calls last) :
      w.Replays s (.write offered reply :: calls) last
  | flush {s s' last : σ} {error : Option SystemError} {calls : List Call}
      (answer : w.flush s = (error, s')) (next : w.Replays s' calls last) :
      w.Replays s (.flush error :: calls) last

namespace Writer.Replays

variable {σ : Type} {w : Writer σ} {s s' last : σ} {first second : List Call}

theorem append (h : w.Replays s first s') (h' : w.Replays s' second last) :
    w.Replays s (first ++ second) last := by
  induction h with
  | start => exact h'
  | write answer _ ih => exact .write answer (ih h')
  | flush answer _ ih => exact .flush answer (ih h')

theorem of_append (h : w.Replays s (first ++ second) last) :
    ∃ s', w.Replays s first s' ∧ w.Replays s' second last := by
  induction first generalizing s with
  | nil => exact ⟨s, .start s, h⟩
  | cons call rest ih =>
    cases h with
    | write answer next =>
      obtain ⟨s', front, back⟩ := ih next
      exact ⟨s', .write answer front, back⟩
    | flush answer next =>
      obtain ⟨s', front, back⟩ := ih next
      exact ⟨s', .flush answer front, back⟩

/-- Stretches follow one another in the writer's states. -/
theorem andThen {written : Written σ} {next : σ → Written σ}
    (h : w.Replays s written.calls written.state)
    (h' : ∀ s', w.Replays s' (next s').calls (next s').state) :
    w.Replays s (written.andThen next).calls (written.andThen next).state := by
  cases hend : written.error with
  | some error => rwa [Written.andThen_of_error hend]
  | none =>
    rw [Written.andThen_of_ok hend]
    exact h.append (h' written.state)

end Writer.Replays

section Replay

variable {σ : Type} (w : Writer σ) {s s' : σ}

/-- The induction is that of the loop. -/
theorem Writer.replays_writeAll (s : σ) (bytes : Bytes) :
    w.Replays s (w.writeAll s bytes).calls (w.writeAll s bytes).state := by
  fun_induction Writer.writeAll w s bytes with
  | case1 s => exact .start s
  | case2 s byte rest s' answer => exact .write answer (.start s')
  | case3 s byte rest n s' answer ih => exact .write answer ih
  | case4 s byte rest s' answer ih => exact .write answer ih
  | case5 s byte rest error s' answer => exact .write answer (.start s')

theorem Writer.replays_writeLine (s : σ) (value : Bytes) :
    w.Replays s (w.writeLine s value).calls (w.writeLine s value).state :=
  ((w.replays_writeAll s value).andThen fun s' => w.replays_writeAll s' [newline]).andThen
    fun s' => .flush rfl (.start (w.flush s').2)

/-- A loop goes on behind a stretch without failures as it would start there. -/
theorem Writer.writeAll_of_progress {bytes left : Bytes} {calls : List Call}
    (progress : Progress bytes calls left) (replays : w.Replays s calls s') :
    w.writeAll s bytes =
      { w.writeAll s' left with calls := calls ++ (w.writeAll s' left).calls } := by
  induction progress generalizing s with
  | start bytes =>
    cases replays
    rfl
  | @accepted bytes left calls n positive within _ ih =>
    cases replays with
    | write answer next =>
      obtain ⟨k, rfl⟩ := Nat.exists_eq_add_one.mpr positive
      have nonempty : bytes ≠ [] := List.length_pos_iff.mp (by omega)
      rw [w.writeAll_of_accepted nonempty answer, ih next]
      rfl
  | interrupted more _ ih =>
    cases replays with
    | write answer next =>
      rw [w.writeAll_of_interrupted more answer, ih next]
      rfl

/-- The writer's answers and the way that the loop ends settle the loop. -/
theorem Writer.writeAll_eq {bytes : Bytes} {calls : List Call} {error : Option SystemError}
    (ended : LoopEnd bytes calls error) (replays : w.Replays s calls s') :
    w.writeAll s bytes = ⟨calls, s', error⟩ := by
  cases ended with
  | complete progress =>
    rw [w.writeAll_of_progress progress replays, w.writeAll_nil, List.append_nil]
  | @stopped before left reply error progress more fails =>
    obtain ⟨middle, front, back⟩ := replays.of_append
    cases back with
    | write answer next =>
      cases next
      rw [w.writeAll_of_progress progress front]
      rcases Call.failure?_eq_some_iff.mp fails with ⟨_, hcall⟩ | ⟨_, hcall, rfl⟩ | hcall
      · cases hcall
        rw [w.writeAll_of_failed more answer]
      · cases hcall
        rw [w.writeAll_of_nothing more answer]
      · cases hcall

/-- A line is the one record that the writer answers so and that ends as a line does. -/
theorem Writer.writeLine_eq_iff {value : Bytes} {calls : List Call} {error : Option SystemError} :
    w.writeLine s value = ⟨calls, s', error⟩ ↔
      w.Replays s calls s' ∧ LineEnd value calls error := by
  constructor
  · intro h
    have replays := w.replays_writeLine s value
    have ended := w.writeLine_lineEnd s value
    rw [h] at replays ended
    exact ⟨replays, ended⟩
  · rintro ⟨replays, ended⟩
    cases ended with
    | inValue stopped =>
      simp only [Writer.writeLine, w.writeAll_eq stopped replays, Written.andThen]
    | atNewline whole stopped =>
      obtain ⟨middle, front, back⟩ := replays.of_append
      simp only [Writer.writeLine, w.writeAll_eq (.complete whole) front,
        w.writeAll_eq stopped back, Written.andThen]
    | atFlush whole closed =>
      obtain ⟨behind, both, last⟩ := replays.of_append
      obtain ⟨middle, front, back⟩ := both.of_append
      cases last with
      | flush answer next =>
        cases next
        simp only [Writer.writeLine, w.writeAll_eq (.complete whole) front,
          w.writeAll_eq (.complete closed) back, Written.andThen, Writer.flushOnce, answer]

/-- No line fails, whatever its value is, as the writer answers from this state on. -/
def Writer.TakesLines (w : Writer σ) (s : σ) : Prop :=
  ∀ value ≠ [], ∀ {calls : List Call} {s' : σ} {error : Option SystemError},
    w.Replays s calls s' → LineEnd value calls error → error = none

theorem Writer.takesLines_iff {w : Writer σ} :
    w.TakesLines s ↔ ∀ value ≠ [], (w.writeLine s value).error = none := by
  constructor
  · intro takes value nonempty
    exact takes value nonempty (w.replays_writeLine s value) (w.writeLine_lineEnd s value)
  · intro h value nonempty calls s' error replays ended
    have hend := h value nonempty
    rwa [w.writeLine_eq_iff.mpr ⟨replays, ended⟩] at hend

end Replay

end AttributePrinter
