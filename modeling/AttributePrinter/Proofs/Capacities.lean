import AttributePrinter.Proofs.Loading
import AttributePrinter.Proofs.Numerals
import AttributePrinter.Proofs.WholeTexts

/-!
# Capacities as they are written

A capacity is written as a row of digits, which may stand behind a plus sign, or as a row of zeros
behind a minus sign, which is refused as a zero. Only a bare text is a capacity: quoted numbers,
fractions, truth values, lists and dictionaries are reported.
-/

namespace AttributePrinter.Setting

/-- A row of zeros, with or without a sign. -/
def DenotesZero (text : Text) : Prop :=
  ∃ more, let zeros := '0' :: List.replicate more '0'
    text = zeros ∨ text = '+' :: zeros ∨ text = '-' :: zeros

/-- An integer is a capacity only if it is zero: the others that can be written are negative. -/
theorem capacityOf_eq_ok_iff {value : Value} (fits : value.Fits) {n : Nat} :
    capacityOf value = .ok n ↔ value = .natural n ∨ value = .integer 0 ∧ n = 0 := by
  cases value with
  | natural m => simp [capacityOf]
  | integer i =>
    have nonpos : i ≤ 0 := fits
    rw [capacityOf]
    split
    · have hzero : i = 0 := by omega
      subst hzero
      simp [eq_comm]
    · have hnegative : i ≠ 0 := by omega
      simp [hnegative]
  | bool | fraction | char | text | list | dict => simp [capacityOf]

theorem capacityOf_ofBare_eq_ok_iff {text : Text} {n : Nat} :
    capacityOf (.ofBare text) = .ok n ↔
      Denotes text n ∧ n < Nat.pow 2 64 ∨
        (∃ more, text = '-' :: '0' :: List.replicate more '0') ∧ n = 0 := by
  rw [capacityOf_eq_ok_iff (Value.ofBare_fits text), Value.ofBare_eq_natural_iff,
    Value.ofBare_eq_integer_zero_iff]

/-- Reading gives zero exactly for a row of zeros. -/
theorem capacityOf_ofBare_eq_zero_iff {text : Text} :
    capacityOf (.ofBare text) = .ok 0 ↔ DenotesZero text := by
  rw [capacityOf_ofBare_eq_ok_iff]
  constructor
  · rintro (⟨⟨numeral, htext, hvalue⟩, -⟩ | ⟨⟨more, htext⟩, -⟩)
    · obtain ⟨more, hmore⟩ := numeral.value_eq_zero_iff.mp hvalue
      rw [hmore] at htext
      exact ⟨more, htext.imp_right Or.inl⟩
    · exact ⟨more, Or.inr (Or.inr htext)⟩
  · rintro ⟨more, htext⟩
    obtain ⟨numeral, hnumeral⟩ := Numeral.exists_zeros more
    have hvalue := numeral.value_eq_zero_iff.mpr ⟨more, hnumeral⟩
    rw [← hnumeral] at htext
    rcases htext with htext | htext | htext
    · exact Or.inl ⟨⟨numeral, Or.inl htext, hvalue⟩, by decide⟩
    · exact Or.inl ⟨⟨numeral, Or.inr htext, hvalue⟩, by decide⟩
    · exact Or.inr ⟨⟨more, by rw [htext, hnumeral]⟩, rfl⟩

theorem capacityOf_ofBare_eq_pos_iff {text : Text} {n : Nat} (pos : 0 < n) :
    capacityOf (.ofBare text) = .ok n ↔ Denotes text n ∧ n < Nat.pow 2 64 := by
  rw [capacityOf_ofBare_eq_ok_iff, or_iff_left]
  rintro ⟨-, rfl⟩
  exact Nat.lt_irrefl 0 pos

/-- A capacity is written with digits and signs. -/
theorem isDigit_or_sign_of_capacityOf {text : Text} {n : Nat}
    (h : capacityOf (.ofBare text) = .ok n) {c : Char} (hc : c ∈ text) :
    isDigit c = true ∨ c = '+' ∨ c = '-' := by
  rcases capacityOf_ofBare_eq_ok_iff.mp h with ⟨denotes, -⟩ | ⟨⟨more, rfl⟩, -⟩
  · exact (denotes.isDigit_or_eq_plus hc).imp_right Or.inl
  · rw [List.mem_cons, ← List.replicate_succ] at hc
    rcases hc with rfl | hzero
    · exact Or.inr (Or.inr rfl)
    · rw [List.eq_of_mem_replicate hzero]
      exact Or.inl rfl

/-- What is written with digits and signs is a bare text. -/
theorem bare_of_digit_or_sign {c : Char} (h : isDigit c = true ∨ c = '+' ∨ c = '-') :
    isSeparator c = false ∧ announcesForm c = false := by
  rcases h with hdigit | rfl | rfl
  · obtain ⟨d, rfl⟩ := isDigit_iff.mp hdigit
    revert d
    decide
  · decide
  · decide

/-- A text is a capacity if what is between its blanks is a bare one. No other form is a number. -/
theorem exists_ofText?_capacityOf_iff {text : Text} {n : Nat} :
    (∃ value, Value.ofText? text = some value ∧ capacityOf value = .ok n) ↔
      capacityOf (.ofBare (Text.trim text)) = .ok n := by
  constructor
  · rintro ⟨value, hread, hcapacity⟩
    cases stands_of_ofText? hread with
    | bare => exact hcapacity
    | truth | quoted | char | list | dict | itself => cases hcapacity
  · intro h
    have bare : ∀ c ∈ Text.trim text, isSeparator c = false ∧ announcesForm c = false :=
      fun c hc => bare_of_digit_or_sign (isDigit_or_sign_of_capacityOf h hc)
    exact ⟨_, ofText?_of_bare (fun c hc => (bare c hc).1)
      fun c hc => (bare c (List.mem_of_mem_head? hc)).2, h⟩

end AttributePrinter.Setting

namespace AttributePrinter.Config

open Setting

theorem mapError_rejected_eq_ok_iff {checked : Except ConfigError Config} {config : Config} :
    checked.mapError LoadFailure.rejected = .ok config ↔ checked = .ok config := by
  cases checked <;> simp [Except.mapError]

theorem mapError_rejected_eq_error_iff {checked : Except ConfigError Config}
    {error : ConfigError} :
    checked.mapError LoadFailure.rejected = .error (.rejected error) ↔ checked = .error error := by
  cases checked <;> simp [Except.mapError]

section Alone

variable {v : Variable} (path : v.path? = some [capacityKey])
include path

/-- The capacity that is written is checked against the limits. A text that is none is reported or,
if a quoted part of it is cut, breaks the reading down. -/
theorem load_capacity_cases :
    (∃ n, capacityOf (.ofBare (Text.trim (Text.ofBytes v.value))) = .ok n ∧
        load [v] = (check ⟨n, .legacy⟩).mapError .rejected) ∨
      (∀ n, capacityOf (.ofBare (Text.trim (Text.ofBytes v.value))) ≠ .ok n) ∧
        ((∃ error, load [v] = .error (.rejected (.invalid error))) ∨
          load [v] = .error .breakdown ∧
            ∃ inside, ['"'] ++ inside ++ ['"'] <:+: Text.ofBytes v.value ∧ Escape.Cuts inside) := by
  have hwritten : ∀ n, capacityOf (.ofBare (Text.trim (Text.ofBytes v.value))) = .ok n ↔
      ∃ value, v.read? = some value ∧ capacityOf value = .ok n :=
    fun n => exists_ofText?_capacityOf_iff.symm
  cases read : v.read? with
  | none =>
    have hcut : ¬ Uncut (Text.ofBytes v.value) := by
      intro uncut
      have hsome : v.read?.isSome = true := Value.isSome_ofText? uncut
      rw [read] at hsome
      cases hsome
    refine Or.inr ⟨fun n hn => ?_, Or.inr ⟨load_alone_of_unread path read, ?_⟩⟩
    · obtain ⟨value, hvalue, -⟩ := (hwritten n).mp hn
      cases read.symm.trans hvalue
    · simpa [Uncut] using hcut
  | some value =>
    have hload := load_alone_of_read path read
    rw [if_pos rfl, if_neg capacityKey_ne_policyKey] at hload
    cases hcapacity : capacityOf value with
    | ok n =>
      refine Or.inl ⟨n, (hwritten n).mpr ⟨value, read, hcapacity⟩, ?_⟩
      rw [hload]
      simp only [ofFields, orStandard, hcapacity]
      rfl
    | error error =>
      refine Or.inr ⟨fun n hn => ?_, Or.inl ⟨error, ?_⟩⟩
      · obtain ⟨other, hother, hok⟩ := (hwritten n).mp hn
        cases read.symm.trans hother
        cases hcapacity.symm.trans hok
      · rw [hload]
        simp only [ofFields, orStandard, hcapacity]
        rfl

/-- Every answer but a report tells of the capacity that is written. -/
theorem load_capacity_iff :
    let written := capacityOf (.ofBare (Text.trim (Text.ofBytes v.value)))
    (∀ config, load [v] = .ok config ↔ config.policy = .legacy ∧
      written = .ok config.capacity ∧ 0 < config.capacity ∧ config.capacity ≤ greatestCapacity) ∧
    (∀ n, load [v] = .error (.rejected (.capacityTooLarge n)) ↔
      written = .ok n ∧ greatestCapacity < n) ∧
    (load [v] = .error (.rejected .zeroCapacity) ↔ written = .ok 0) := by
  intro written
  -- The capacity that is written settles all three; without one neither side of any holds.
  rcases load_capacity_cases path with ⟨n, hwritten, hload⟩ | ⟨hnone, hother⟩
  · have hn : written = .ok n := hwritten
    refine ⟨fun config => ?_, fun m => ?_, ?_⟩
    · rw [hload, mapError_rejected_eq_ok_iff, check_eq_ok_iff, hn]
      constructor
      · rintro ⟨rfl, hpos, hfits⟩
        exact ⟨rfl, rfl, hpos, hfits⟩
      · obtain ⟨capacity, policy⟩ := config
        rintro ⟨rfl, ⟨⟩, hpos, hfits⟩
        exact ⟨rfl, hpos, hfits⟩
    · rw [hload, mapError_rejected_eq_error_iff, check_eq_capacityTooLarge_iff, hn]
      constructor
      · rintro ⟨rfl, hlarge⟩
        exact ⟨rfl, hlarge⟩
      · rintro ⟨⟨⟩, hlarge⟩
        exact ⟨rfl, hlarge⟩
    · rw [hload, mapError_rejected_eq_error_iff, check_eq_zeroCapacity_iff, hn]
      exact ⟨fun h => congrArg Except.ok h, fun h => Except.ok.inj h⟩
  · have hn : ∀ n, written ≠ .ok n := hnone
    rcases hother with ⟨error, hload⟩ | ⟨hload, -⟩
    · simp [hload, hn]
    · simp [hload, hn]

end Alone

/-- A variable with the capacity alone gives a configuration exactly if its text, trimmed, is a row
of digits within the limits, with or without a plus sign. A row of digits beyond the limit is too
large as long as it denotes a machine word, and a row of zeros is no capacity even behind a minus
sign. Every other text is reported or breaks the reading down at a quoted part that is cut. -/
theorem load_written_capacity (v : Bytes) :
    let text := Text.trim (Text.ofBytes v)
    let loaded := load [⟨asciiBytes "GETXATTR_BUFFER_CAPACITY", v⟩]
    (∀ config, loaded = .ok config ↔ config.policy = .legacy ∧ Denotes text config.capacity ∧
      1 ≤ config.capacity ∧ config.capacity ≤ 65536) ∧
    (∀ n, loaded = .error (.rejected (.capacityTooLarge n)) ↔
      Denotes text n ∧ 65536 < n ∧ n ≤ 18446744073709551615) ∧
    (loaded = .error (.rejected .zeroCapacity) ↔ DenotesZero text) ∧
    ((∃ n, Denotes text n ∧ n ≤ 18446744073709551615) ∨ DenotesZero text ∨
      (∃ error, loaded = .error (.rejected (.invalid error))) ∨
      loaded = .error .breakdown ∧
        ∃ inside, ['"'] ++ inside ++ ['"'] <:+: Text.ofBytes v ∧ Escape.Cuts inside) := by
  intro text loaded
  have named : Variable.path? ⟨asciiBytes "GETXATTR_BUFFER_CAPACITY", []⟩ = some [capacityKey] := by
    decide +kernel
  have path : Variable.path? ⟨asciiBytes "GETXATTR_BUFFER_CAPACITY", v⟩ = some [capacityKey] :=
    (Variable.path?_congr rfl).trans named
  have word : ∀ n, n < Nat.pow 2 64 ↔ n ≤ 18446744073709551615 := fun n => Nat.lt_succ_iff
  obtain ⟨ok, tooLarge, zero⟩ := load_capacity_iff path
  refine ⟨fun config => ?_, fun n => ?_, zero.trans capacityOf_ofBare_eq_zero_iff, ?_⟩
  · refine (ok config).trans (and_congr_right fun _ => ?_)
    constructor
    · rintro ⟨hwritten, hpos, hfits⟩
      exact ⟨((capacityOf_ofBare_eq_pos_iff hpos).mp hwritten).1, hpos, hfits⟩
    · rintro ⟨denotes, hpos, hfits⟩
      have hsmall : config.capacity < Nat.pow 2 64 := Nat.lt_of_le_of_lt hfits (by decide)
      exact ⟨(capacityOf_ofBare_eq_pos_iff hpos).mpr ⟨denotes, hsmall⟩, hpos, hfits⟩
  · refine (tooLarge n).trans ?_
    constructor
    · rintro ⟨hwritten, hlarge⟩
      have hpos : 0 < n := Nat.zero_lt_of_lt hlarge
      obtain ⟨denotes, hsmall⟩ := (capacityOf_ofBare_eq_pos_iff hpos).mp hwritten
      exact ⟨denotes, hlarge, (word n).mp hsmall⟩
    · rintro ⟨denotes, hlarge, hsmall⟩
      have hpos : 0 < n := Nat.zero_lt_of_lt hlarge
      exact ⟨(capacityOf_ofBare_eq_pos_iff hpos).mpr ⟨denotes, (word n).mpr hsmall⟩, hlarge⟩
  · rcases load_capacity_cases path with ⟨n, hwritten, -⟩ | ⟨-, hother⟩
    · rcases Nat.eq_zero_or_pos n with rfl | hpos
      · exact Or.inr (Or.inl (capacityOf_ofBare_eq_zero_iff.mp hwritten))
      · obtain ⟨denotes, hsmall⟩ := (capacityOf_ofBare_eq_pos_iff hpos).mp hwritten
        exact Or.inl ⟨n, denotes, (word n).mp hsmall⟩
    · exact Or.inr (Or.inr hother)

/-- Sixteen more than a machine word can hold is not sixteen. -/
example : load [⟨asciiBytes "GETXATTR_BUFFER_CAPACITY", asciiBytes "18446744073709551632"⟩] =
    .error (.rejected (.invalid
      ⟨[capacityKey], .wrongType (.text "18446744073709551632".toList) .capacity⟩)) := by
  decide +kernel

end AttributePrinter.Config
