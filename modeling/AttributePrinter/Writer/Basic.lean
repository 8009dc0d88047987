import AttributePrinter.SystemError.Basic
import AttributePrinter.Text.Basic

/-!
# Writers

A writer takes bytes a call at a time: a call takes some of the bytes offered, is interrupted
before it takes any, or fails. Writing all of a byte string repeats the call with what is left;
an interrupted call is repeated as it was, and a call that takes nothing is a failure. Every
call is recorded with what it was offered, so that the bytes taken, the calls made and the call
that failed can all be read off the record.

The loop ends because each call either takes a byte or uses up patience: a number that a writer
must have for every state and offer, and that bounds how often the same offer is still interrupted.
-/

namespace AttributePrinter

/-- An interruption is an answer of its own; `failed` is for every other error. -/
inductive WriteReply where
  | accepted (count : Nat)
  | interrupted
  | failed (error : SystemError)
  deriving DecidableEq, Repr

structure Writer (σ : Type) where
  write : σ → Bytes → WriteReply × σ
  flush : σ → Option SystemError × σ
  patience : σ → Bytes → Nat
  accepted_le : ∀ s offered n, (write s offered).1 = .accepted n → n ≤ offered.length
  patience_lt : ∀ s offered, (write s offered).1 = .interrupted →
    patience (write s offered).2 offered < patience s offered

/-- One call and its answer; a flush that went well has no error. -/
inductive Call where
  | write (offered : Bytes) (reply : WriteReply)
  | flush (error : Option SystemError)
  deriving DecidableEq, Repr

namespace Call

def taken : Call → Bytes
  | .write offered (.accepted n) => offered.take n
  | _ => []

def isFlush : Call → Bool
  | .flush _ => true
  | .write .. => false

/-- The error that a call ends a run with; an interrupted call ends none. -/
def failure? : Call → Option SystemError
  | .write _ (.accepted 0) => some .nothingTaken
  | .write _ (.accepted (_ + 1)) => none
  | .write _ .interrupted => none
  | .write _ (.failed error) => some error
  | .flush error => error

end Call

/-- The bytes that a writer took over a list of calls. -/
def Calls.taken (calls : List Call) : Bytes :=
  calls.flatMap Call.taken

@[simp]
theorem Calls.taken_nil : Calls.taken [] = [] := rfl

@[simp]
theorem Calls.taken_cons (call : Call) (calls : List Call) :
    Calls.taken (call :: calls) = call.taken ++ Calls.taken calls := rfl

@[simp]
theorem Calls.taken_append (calls more : List Call) :
    Calls.taken (calls ++ more) = Calls.taken calls ++ Calls.taken more :=
  List.flatMap_append

/-- A stretch of calls: the record, the writer's state behind it, and the error that ended it. -/
structure Written (σ : Type) where
  calls : List Call
  state : σ
  error : Option SystemError

namespace Written

variable {σ : Type}

def after (call : Call) (w : Written σ) : Written σ :=
  { w with calls := call :: w.calls }

/-- Goes on only if nothing has failed so far. -/
def andThen (w : Written σ) (next : σ → Written σ) : Written σ :=
  match w.error with
  | some _ => w
  | none => { next w.state with calls := w.calls ++ (next w.state).calls }

@[simp]
theorem calls_after (call : Call) (w : Written σ) : (w.after call).calls = call :: w.calls := rfl

@[simp]
theorem state_after (call : Call) (w : Written σ) : (w.after call).state = w.state := rfl

@[simp]
theorem error_after (call : Call) (w : Written σ) : (w.after call).error = w.error := rfl

theorem andThen_of_error {w : Written σ} {e : SystemError} (h : w.error = some e)
    (next : σ → Written σ) : w.andThen next = w := by
  simp [andThen, h]

theorem andThen_of_ok {w : Written σ} (h : w.error = none) (next : σ → Written σ) :
    w.andThen next = { next w.state with calls := w.calls ++ (next w.state).calls } := by
  simp [andThen, h]

end Written

namespace Writer

variable {σ : Type}

def writeAll (w : Writer σ) (s : σ) : Bytes → Written σ
  | [] => ⟨[], s, none⟩
  | byte :: rest =>
    match hreply : w.write s (byte :: rest) with
    | (.accepted 0, s') => ⟨[.write (byte :: rest) (.accepted 0)], s', some .nothingTaken⟩
    | (.accepted (n + 1), s') =>
      (w.writeAll s' (rest.drop n)).after (.write (byte :: rest) (.accepted (n + 1)))
    | (.interrupted, s') =>
      (w.writeAll s' (byte :: rest)).after (.write (byte :: rest) .interrupted)
    | (.failed error, s') => ⟨[.write (byte :: rest) (.failed error)], s', some error⟩
termination_by bytes => (bytes.length, w.patience s bytes)
decreasing_by
  · exact Prod.Lex.left _ _ (by simp only [List.length_drop, List.length_cons]; omega)
  · have hless := w.patience_lt s (byte :: rest) (by rw [hreply])
    rw [hreply] at hless
    exact Prod.Lex.right _ hless

/-- The flush is tried once, whatever it answers. -/
def flushOnce (w : Writer σ) (s : σ) : Written σ :=
  let (error, s') := w.flush s
  ⟨[.flush error], s', error⟩

def newline : UInt8 := 10

/-- A value, a newline and a flush, as far as nothing fails. -/
def writeLine (w : Writer σ) (s : σ) (value : Bytes) : Written σ :=
  ((w.writeAll s value).andThen (w.writeAll · [newline])).andThen w.flushOnce

@[simp]
theorem writeAll_nil (w : Writer σ) (s : σ) : w.writeAll s [] = ⟨[], s, none⟩ := by
  rw [writeAll]

theorem writeAll_of_accepted (w : Writer σ) {s s' : σ} {bytes : Bytes} {n : Nat}
    (hbytes : bytes ≠ []) (h : w.write s bytes = (.accepted (n + 1), s')) :
    w.writeAll s bytes =
      (w.writeAll s' (bytes.drop (n + 1))).after (.write bytes (.accepted (n + 1))) := by
  cases bytes with
  | nil => exact absurd rfl hbytes
  | cons byte rest =>
    rw [writeAll]
    split <;> simp_all

theorem writeAll_of_interrupted (w : Writer σ) {s s' : σ} {bytes : Bytes}
    (hbytes : bytes ≠ []) (h : w.write s bytes = (.interrupted, s')) :
    w.writeAll s bytes = (w.writeAll s' bytes).after (.write bytes .interrupted) := by
  cases bytes with
  | nil => exact absurd rfl hbytes
  | cons byte rest =>
    rw [writeAll]
    split <;> simp_all

theorem writeAll_of_nothing (w : Writer σ) {s s' : σ} {bytes : Bytes}
    (hbytes : bytes ≠ []) (h : w.write s bytes = (.accepted 0, s')) :
    w.writeAll s bytes = ⟨[.write bytes (.accepted 0)], s', some .nothingTaken⟩ := by
  cases bytes with
  | nil => exact absurd rfl hbytes
  | cons byte rest =>
    rw [writeAll]
    split <;> simp_all

theorem writeAll_of_failed (w : Writer σ) {s s' : σ} {bytes : Bytes} {error : SystemError}
    (hbytes : bytes ≠ []) (h : w.write s bytes = (.failed error, s')) :
    w.writeAll s bytes = ⟨[.write bytes (.failed error)], s', some error⟩ := by
  cases bytes with
  | nil => exact absurd rfl hbytes
  | cons byte rest =>
    rw [writeAll]
    split <;> simp_all

end Writer

end AttributePrinter
