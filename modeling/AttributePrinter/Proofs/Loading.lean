import AttributePrinter.Proofs.Ending
import AttributePrinter.Proofs.Overriding
import AttributePrinter.Proofs.Parsing

/-!
# What loading can come to

Where every backslash has only ASCII in front of it, each variable is read to its end, and loading
gives a configuration within the limits or one of three errors. An excessive capacity is one that
could be written at all: a number without a sign is read only if it is below 2^64, and merging
makes no new numbers, since the setting under a key is either a dictionary or a value that some
variable gave.
-/

namespace AttributePrinter.Setting

/-- A whole number as it can be written in a setting: below 2^64, and not above zero if it stands
behind a minus sign. -/
def Value.Fits : Value → Prop
  | .natural n => n < Nat.pow 2 64
  | .integer i => i ≤ 0
  | _ => True

/-- What is read, if anything is, is `good`. -/
def Reading.Gives {α : Type} (good : α → Prop) : Reading α → Prop
  | .ok (a, _) => good a
  | .error _ => True

theorem Reading.gives_map {α β : Type} {good : β → Prop} {f : α × Text → β × Text}
    (h : ∀ r, good (f r).1) (reading : Reading α) :
    Reading.Gives good (reading.map f : Reading β) := by
  cases reading with
  | error flaw => trivial
  | ok r => exact h r

theorem gives_beforeBlanks {good : Value → Prop} {reading : Reading Value}
    (h : Reading.Gives good reading) : Reading.Gives good (beforeBlanks reading) := by
  cases reading with
  | error flaw => trivial
  | ok r => exact h

theorem natural?_lt {text : Text} {n : Nat} (h : natural? text = some n) : n < Nat.pow 2 64 := by
  obtain ⟨-, hsmall⟩ := Option.filter_eq_some_iff.mp h
  exact of_decide_eq_true hsmall

theorem integer?_nonpos {text : Text} {i : Int} (h : integer? text = some i) : i ≤ 0 := by
  unfold integer? at h
  split at h
  · obtain ⟨size, hsize, rfl⟩ := Option.map_eq_some_iff.mp h
    obtain ⟨n, -, hn⟩ := Option.bind_eq_some_iff.mp hsize
    cases hn
    exact Int.neg_nonpos_of_nonneg (Int.natCast_nonneg n)
  · cases h

namespace Value

theorem ofBare_fits (text : Text) : (ofBare text).Fits := by
  unfold ofBare
  split
  · trivial
  split
  · rename_i n hn
    exact natural?_lt hn
  split
  · rename_i i hi
    exact integer?_nonpos hi
  · trivial

theorem fits_of_isDict {value : Value} (h : value.isDict = true) : value.Fits := by
  obtain ⟨entries, rfl⟩ := isDict_iff.mp h
  trivial

theorem fits_of_formOf {text rest : Text} {value : Value} (h : formOf text = .whole value rest) :
    value.Fits := by
  unfold formOf at h
  split at h
  · cases h
    trivial
  split at h
  · cases h
    trivial
  split at h
  · cases h
  · cases h
  · cases h
  · cases h
  · cases h
    exact ofBare_fits _

/-- Only a bare text is read as a number. -/
theorem readValue_fits (count : Nat) (text : Text) :
    Reading.Gives Fits (readValue count text) := by
  cases count with
  | zero => trivial
  | succ count =>
    rw [readValue]
    apply gives_beforeBlanks
    cases hform : formOf (skipBlanks text) with
    | whole value rest => exact fits_of_formOf hform
    | quoted rest => exact Reading.gives_map (fun _ => trivial) (readQuoted rest)
    | char rest =>
      simp only [readChar]
      split
      · trivial
      · trivial
    | list rest => exact Reading.gives_map (fun _ => trivial) (readItems count rest)
    | dict rest => exact Reading.gives_map (fun _ => trivial) (readEntries count rest)

theorem fits_of_ofText {text : Text} {value : Value} (h : ofText? text = some value) :
    value.Fits := by
  have fits := readValue_fits (2 * text.length + 3) text
  unfold ofText? at h
  split at h
  · rename_i hread
    rw [hread] at fits
    cases h
    exact fits
  · cases h
    trivial
  · cases h
    trivial
  · cases h

theorem nest_fits {value : Value} (fits : value.Fits) (path : List Text) :
    (nest path value).Fits := by
  cases path with
  | nil => exact fits
  | cons key path => trivial

/-- What is laid on top stays as it is, or a dictionary comes of it. -/
theorem over_fits {value : Value} (fits : value.Fits) (below : Option Value) :
    (value.over below).Fits := by
  cases hdict : value.isDict with
  | false => rwa [over_of_plain hdict]
  | true =>
    apply fits_of_isDict
    rw [isDict_over, hdict]

end Value

theorem Contribution.within_fits {contributions : List Contribution}
    (fits : ∀ c ∈ contributions, c.value.Fits) {below : Option Value}
    (hbelow : ∀ value ∈ below, value.Fits) :
    ∀ value ∈ contributions.foldl Contribution.within below, value.Fits := by
  induction contributions generalizing below with
  | nil => exact hbelow
  | cons c rest ih =>
    refine ih (fun d hd => fits d (List.mem_cons_of_mem c hd)) ?_
    rintro value ⟨⟩
    exact Value.over_fits (Value.nest_fits (fits c List.mem_cons_self) _) below

theorem Environment.setting?_fits (env : Environment) (key : Text) :
    ∀ value ∈ env.setting? key, value.Fits := by
  refine Contribution.within_fits ?_ (by simp)
  intro c hc
  obtain ⟨v, -, hsaid⟩ := List.mem_filterMap.mp hc
  obtain ⟨path, -, hread⟩ := Option.bind_eq_some_iff.mp hsaid
  obtain ⟨value, hvalue, rfl⟩ := Option.map_eq_some_iff.mp hread
  exact Value.fits_of_ofText hvalue

theorem capacityOf_lt {value : Value} (fits : value.Fits) {n : Nat} (h : capacityOf value = .ok n) :
    n < Nat.pow 2 64 := by
  cases value with
  | natural m =>
    cases h
    exact fits
  | integer i =>
    have nonpos : i ≤ 0 := fits
    rw [capacityOf] at h
    split at h
    · cases h
      have hzero : i.toNat = 0 := by omega
      rw [hzero]
      decide
    · cases h
  | bool _ | fraction _ | char _ | text _ | list _ | dict _ => cases h

/-- In each variable that contributes, only ASCII characters stand in front of any backslash. -/
def Environment.EscapesBehindAscii (env : Environment) : Prop :=
  ∀ v ∈ env, v.path?.isSome = true → Setting.EscapesBehindAscii (Text.ofBytes v.value)

instance (env : Environment) : Decidable env.EscapesBehindAscii :=
  inferInstanceAs (Decidable (∀ v ∈ env, v.path?.isSome = true →
    Setting.EscapesBehindAscii (Text.ofBytes v.value)))

theorem Environment.EscapesBehindAscii.readable {env : Environment}
    (clear : env.EscapesBehindAscii) : env.Readable :=
  fun v hv contributes => Value.isSome_ofText? (clear v hv contributes).uncut

end AttributePrinter.Setting

namespace AttributePrinter.Config

open Setting

theorem check_cases (config : Config) :
    (config.check = .ok config ∧ 1 ≤ config.capacity ∧ config.capacity ≤ greatestCapacity) ∨
      config.check = .error .zeroCapacity ∨
      (config.check = .error (.capacityTooLarge config.capacity) ∧
        greatestCapacity < config.capacity) := by
  rcases Nat.eq_zero_or_pos config.capacity with hzero | hpos
  · exact Or.inr (Or.inl (check_of_zero hzero))
  rcases Nat.lt_or_ge greatestCapacity config.capacity with hlarge | hfits
  · exact Or.inr (Or.inr ⟨check_of_large hlarge, hlarge⟩)
  · exact Or.inl ⟨check_eq_ok_iff.mpr ⟨rfl, hpos, hfits⟩, hpos, hfits⟩

theorem capacity_lt {capacity? : Option Value} (fits : ∀ value ∈ capacity?, value.Fits) {n : Nat}
    (h : orStandard standard.capacity capacityOf capacity? = .ok n) : n < Nat.pow 2 64 := by
  cases capacity? with
  | none =>
    cases h
    decide
  | some value => exact capacityOf_lt (fits value rfl) h

/-- Two settings of which the first is no number beyond a machine word. -/
theorem ofFields_cases {capacity? : Option Value} (fits : ∀ value ∈ capacity?, value.Fits)
    (policy? : Option Value) :
    (∃ config, ofFields capacity? policy? = .ok config ∧ 1 ≤ config.capacity ∧
        config.capacity ≤ greatestCapacity) ∨
      ofFields capacity? policy? = .error .zeroCapacity ∨
      (∃ n, ofFields capacity? policy? = .error (.capacityTooLarge n) ∧ greatestCapacity < n ∧
        n < Nat.pow 2 64) ∨
      ∃ error, ofFields capacity? policy? = .error (.invalid error) := by
  rw [ofFields]
  cases hcapacity : orStandard standard.capacity capacityOf capacity? with
  | error error => exact Or.inr (Or.inr (Or.inr ⟨error, rfl⟩))
  | ok capacity =>
    cases orStandard standard.policy policyOf policy? with
    | error error => exact Or.inr (Or.inr (Or.inr ⟨error, rfl⟩))
    | ok policy =>
      rcases check_cases ⟨capacity, policy⟩ with ⟨hok, hpos, hfits⟩ | hzero | ⟨hlarge, hbeyond⟩
      · exact Or.inl ⟨_, hok, hpos, hfits⟩
      · exact Or.inr (Or.inl hzero)
      · exact Or.inr (Or.inr (Or.inl ⟨capacity, hlarge, hbeyond, capacity_lt fits hcapacity⟩))

/-- Where only ASCII characters stand in front of backslashes, loading gives a configuration whose
capacity is within the limits, or an error: no capacity, one beyond the limit that still is a
machine word, or a setting at fault. So the program never ends as on a breakdown, whatever it is
started with. -/
theorem load_of_escapesBehindAscii {env : Environment} (clear : env.EscapesBehindAscii) :
    ((∃ config, load env = .ok config ∧ 1 ≤ config.capacity ∧ config.capacity ≤ 65536) ∨
      load env = .error (.rejected .zeroCapacity) ∨
      (∃ n, load env = .error (.rejected (.capacityTooLarge n)) ∧ 65536 < n ∧
        n ≤ 18446744073709551615) ∨
      ∃ error, load env = .error (.rejected (.invalid error))) ∧
    ∀ source arguments stdout,
      (Program.run ⟨source, arguments, env, stdout⟩).ending.code ≠ 101 := by
  have readable := clear.readable
  have fits := Environment.setting?_fits env capacityKey
  constructor
  · rw [load_eq_ofFields readable]
    rcases ofFields_cases fits (env.setting? policyKey) with
      ⟨config, hok, hpos, hfits⟩ | hzero | ⟨n, hlarge, hbeyond, hword⟩ | ⟨error, hinvalid⟩
    · exact Or.inl ⟨config, by rw [hok]; rfl, hpos, hfits⟩
    · exact Or.inr (Or.inl (by rw [hzero]; rfl))
    · exact Or.inr (Or.inr (Or.inl ⟨n, by rw [hlarge]; rfl, hbeyond, Nat.le_of_lt_succ hword⟩))
    · exact Or.inr (Or.inr (Or.inr ⟨error, by rw [hinvalid]; rfl⟩))
  · intro source arguments stdout hcode
    have hbreakdown := (Program.Ending.code_eq_101_iff _).mp hcode
    exact load_ne_breakdown readable (Program.run_ending_eq_breakdown_iff.mp hbreakdown)

/-- The quoted text of a letter with an accent and a tab written as an escape. -/
def accentBeforeEscape : Bytes := [0x22, 0xC3, 0xA9, 0x5C, 0x74, 0x22]

/-- Escapes at every depth, in keys and in values, and an accent behind them. The one text that has
its accent in front of an escape belongs to a variable that does not contribute. -/
def escapedNotes : Environment :=
  [⟨asciiBytes "GREETING", accentBeforeEscape⟩,
    ⟨asciiBytes "GETXATTR_NOTE.FIRST",
      asciiBytes "\x7b\"a\\tb\"=[\"\\u00e9\",'\"',\"" ++ [0xC3, 0xA9] ++ asciiBytes "\"]\x7d"⟩,
    ⟨asciiBytes "getxattr_exit_policy", asciiBytes "\"str\\u0069ct\""⟩,
    ⟨asciiBytes "GETXATTR_BUFFER_CAPACITY", asciiBytes "18446744073709551615"⟩]

theorem load_escapedNotes :
    escapedNotes.EscapesBehindAscii ∧
      (∃ n, load escapedNotes = .error (.rejected (.capacityTooLarge n)) ∧ 65536 < n ∧
        n ≤ 18446744073709551615) ∧
      ∀ source arguments stdout,
        (Program.run ⟨source, arguments, escapedNotes, stdout⟩).ending.code ≠ 101 := by
  have clear : escapedNotes.EscapesBehindAscii := by decide +kernel
  have hload : load escapedNotes = .error (.rejected (.capacityTooLarge 18446744073709551615)) := by
    decide +kernel
  obtain ⟨answers, hcode⟩ := load_of_escapesBehindAscii clear
  refine ⟨clear, ?_, hcode⟩
  rcases answers with ⟨config, hok, -⟩ | hzero | large | ⟨error, hinvalid⟩
  · cases hload.symm.trans hok
  · cases hload.symm.trans hzero
  · exact large
  · cases hload.symm.trans hinvalid

/-- In a variable that contributes, the accent is cut. -/
example : load [⟨asciiBytes "GETXATTR_NOTE", accentBeforeEscape⟩] = .error .breakdown := by
  decide +kernel

end AttributePrinter.Config
