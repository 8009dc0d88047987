import AttributePrinter.Setting.Number
import Mathlib.Data.List.Induction
import Mathlib.Data.Nat.Digits.Defs
import Mathlib.Data.Set.List

/-!
# Numerals

What a row of digits denotes is told apart from how it is read: each digit counts for itself and the
row for its digits in base ten. Digits are read as a natural number if they denote less than 2^64,
with any number of zeros in front and a plus sign or none, so no number wraps around to a smaller
one. Behind a minus sign only zeros denote a number that is not negative.
-/

namespace AttributePrinter.Setting

/-- A row of digits, the most significant first. -/
structure Numeral where
  digits : List (Fin 10)
  digits_ne_nil : digits ≠ []

namespace Numeral

def text (numeral : Numeral) : Text :=
  numeral.digits.map fun d => Nat.digitChar d.val

def value (numeral : Numeral) : Nat :=
  Nat.ofDigits 10 (numeral.digits.reverse.map Fin.val)

end Numeral

/-- A row of digits for `n`, with or without a plus sign. -/
def Denotes (text : Text) (n : Nat) : Prop :=
  ∃ numeral : Numeral, (text = numeral.text ∨ text = '+' :: numeral.text) ∧ numeral.value = n

theorem isDigit_iff {c : Char} : isDigit c = true ↔ ∃ d : Fin 10, Nat.digitChar d.val = c := by
  constructor
  · intro h
    have hrange : '0' ≤ c ∧ c ≤ '9' := by simpa [isDigit] using h
    have hlow : 48 ≤ c.toNat := hrange.1
    have hhigh : c.toNat ≤ 57 := hrange.2
    have hsmall : c.toNat - 48 < 10 := by omega
    refine ⟨⟨c.toNat - 48, hsmall⟩, Char.toNat_inj.mp ?_⟩
    rw [Nat.toNat_digitChar_of_lt_ten hsmall]
    omega
  · rintro ⟨d, rfl⟩
    revert d
    decide

theorem digit_eq_zero : ∀ d : Fin 10, Nat.digitChar d.val = '0' → d.val = 0 := by
  decide

/-- One more digit at the end is one more step of the reading. -/
theorem foldl_appendDigit (digits : List (Fin 10)) :
    (digits.map fun d => Nat.digitChar d.val).foldl appendDigit 0 =
      Nat.ofDigits 10 (digits.reverse.map Fin.val) := by
  induction digits using List.reverseRecOn with
  | nil => rfl
  | append_singleton digits d ih =>
    have hdigit : (Nat.digitChar d.val).toNat - '0'.toNat = d.val := by
      rw [Nat.toNat_digitChar_of_lt_ten d.isLt]
      exact Nat.add_sub_cancel_left 48 d
    rw [List.map_append, List.foldl_append, ih, List.reverse_append]
    simp only [List.map_cons, List.map_nil, List.foldl_cons, List.foldl_nil, appendDigit, hdigit,
      List.reverse_singleton, List.singleton_append, Nat.ofDigits_cons]
    exact Nat.add_comm _ _

namespace Numeral

theorem exists_text_iff {text : Text} :
    (∃ numeral : Numeral, numeral.text = text) ↔ text ≠ [] ∧ text.all isDigit = true := by
  constructor
  · rintro ⟨numeral, rfl⟩
    refine ⟨by simpa [Numeral.text] using numeral.digits_ne_nil, List.all_eq_true.mpr ?_⟩
    intro c hc
    obtain ⟨d, -, hd⟩ := List.mem_map.mp hc
    exact isDigit_iff.mpr ⟨d, hd⟩
  · rintro ⟨nonempty, all⟩
    have hrow : text ∈ Set.range (List.map fun d : Fin 10 => Nat.digitChar d.val) := by
      rw [Set.range_list_map]
      exact fun c hc => isDigit_iff.mp (List.all_eq_true.mp all c hc)
    obtain ⟨digits, rfl⟩ := hrow
    exact ⟨⟨digits, by simpa using nonempty⟩, rfl⟩

theorem exists_zeros (more : Nat) :
    ∃ numeral : Numeral, numeral.text = '0' :: List.replicate more '0' :=
  exists_text_iff.mpr ⟨List.cons_ne_nil _ _, by simp [isDigit]⟩

variable (numeral : Numeral)

theorem isDigit_of_mem {c : Char} (h : c ∈ numeral.text) : isDigit c = true :=
  List.all_eq_true.mp (exists_text_iff.mp ⟨numeral, rfl⟩).2 c h

/-- Nothing but zeros denotes zero. -/
theorem value_eq_zero_iff :
    numeral.value = 0 ↔ ∃ more, numeral.text = '0' :: List.replicate more '0' := by
  constructor
  · intro h
    have hzeros := Nat.digits_zero_of_eq_zero (by decide) h
    have hchars : ∀ c ∈ numeral.text, c = '0' := by
      intro c hc
      obtain ⟨d, hd, rfl⟩ := List.mem_map.mp hc
      rw [hzeros d.val (List.mem_map_of_mem (List.mem_reverse.mpr hd))]
      rfl
    obtain ⟨more, hmore⟩ := Nat.exists_eq_succ_of_ne_zero
      (List.length_eq_zero_iff.not.mpr (exists_text_iff.mp ⟨numeral, rfl⟩).1)
    exact ⟨more, by rw [List.eq_replicate_iff.mpr ⟨hmore, hchars⟩, List.replicate_succ]⟩
  · rintro ⟨more, hmore⟩
    have hzeros : ∀ d ∈ numeral.digits.reverse.map Fin.val, d = 0 := by
      intro n hn
      obtain ⟨d, hd, rfl⟩ := List.mem_map.mp hn
      have hchar : Nat.digitChar d.val ∈ '0' :: List.replicate more '0' :=
        hmore ▸ List.mem_map_of_mem (List.mem_reverse.mp hd)
      rw [← List.replicate_succ] at hchar
      exact digit_eq_zero d (List.eq_of_mem_replicate hchar)
    rw [Numeral.value, List.eq_replicate_of_mem hzeros]
    exact Nat.ofDigits_replicate_zero

end Numeral

theorem digits?_eq_some_iff {text : Text} {n : Nat} :
    digits? text = some n ↔ ∃ numeral : Numeral, numeral.text = text ∧ numeral.value = n := by
  constructor
  · intro h
    rw [digits?] at h
    split at h
    · rename_i row
      obtain ⟨numeral, rfl⟩ := Numeral.exists_text_iff.mpr row
      rw [Numeral.text, foldl_appendDigit] at h
      exact ⟨numeral, rfl, Option.some.inj h⟩
    · cases h
  · rintro ⟨numeral, rfl, rfl⟩
    rw [digits?, if_pos (Numeral.exists_text_iff.mp ⟨numeral, rfl⟩), Numeral.text,
      foldl_appendDigit, Numeral.value]

theorem natural?_eq_some_iff {text : Text} {n : Nat} :
    natural? text = some n ↔ Denotes text n ∧ n < Nat.pow 2 64 := by
  unfold natural?
  rw [Option.filter_eq_some_iff, decide_eq_true_iff]
  refine and_congr_left fun _ => ?_
  unfold Denotes
  split
  · rename_i rest
    rw [digits?_eq_some_iff]
    constructor
    · rintro ⟨numeral, rfl, hvalue⟩
      exact ⟨numeral, Or.inr rfl, hvalue⟩
    · rintro ⟨numeral, htext | htext, hvalue⟩
      · have hsign : '+' ∈ numeral.text := htext ▸ List.mem_cons_self
        cases numeral.isDigit_of_mem hsign
      · exact ⟨numeral, (List.cons.inj htext).2.symm, hvalue⟩
  · rename_i unsigned
    rw [digits?_eq_some_iff]
    constructor
    · rintro ⟨numeral, rfl, hvalue⟩
      exact ⟨numeral, Or.inl rfl, hvalue⟩
    · rintro ⟨numeral, rfl | rfl, hvalue⟩
      · exact ⟨numeral, rfl, hvalue⟩
      · exact absurd rfl (unsigned numeral.text)

theorem Denotes.isDigit_or_eq_plus {text : Text} {n : Nat} (denotes : Denotes text n) {c : Char}
    (h : c ∈ text) : isDigit c = true ∨ c = '+' := by
  obtain ⟨numeral, rfl | rfl, -⟩ := denotes
  · exact Or.inl (numeral.isDigit_of_mem h)
  · rcases List.mem_cons.mp h with rfl | hc
    · exact Or.inr rfl
    · exact Or.inl (numeral.isDigit_of_mem hc)

/-- Behind a minus sign only zero is not negative. -/
theorem integer?_eq_zero_iff {text : Text} :
    integer? text = some 0 ↔ ∃ more, text = '-' :: '0' :: List.replicate more '0' := by
  constructor
  · intro h
    unfold integer? at h
    split at h
    · obtain ⟨size, hsize, hzero⟩ := Option.map_eq_some_iff.mp h
      obtain ⟨n, hn, hmade⟩ := Option.bind_eq_some_iff.mp hsize
      obtain ⟨hdigits, -⟩ := Option.filter_eq_some_iff.mp hn
      obtain ⟨numeral, rfl, rfl⟩ := digits?_eq_some_iff.mp hdigits
      have hsame : (numeral.value : Int) = size := Option.some.inj hmade
      have hnone : numeral.value = 0 := by omega
      obtain ⟨more, hmore⟩ := numeral.value_eq_zero_iff.mp hnone
      exact ⟨more, by rw [hmore]⟩
    · cases h
  · rintro ⟨more, rfl⟩
    obtain ⟨numeral, htext⟩ := Numeral.exists_zeros more
    have hvalue := numeral.value_eq_zero_iff.mpr ⟨more, htext⟩
    rw [integer?, digits?_eq_some_iff.mpr ⟨numeral, htext, hvalue⟩]
    rfl

theorem unsignedFraction?_eq_none {text : Text} (pointless : '.' ∉ text) (negative : Bool) :
    unsignedFraction? negative text = none := by
  unfold unsignedFraction?
  simp only
  split
  · rename_i rest hrest
    have hpoint : '.' ∈ text.dropWhile isDigit := hrest ▸ List.mem_cons_self
    exact absurd ((List.dropWhile_sublist isDigit).mem hpoint) pointless
  · rfl

theorem fraction?_eq_none {text : Text} (pointless : '.' ∉ text) : fraction? text = none := by
  unfold fraction?
  split
  · exact unsignedFraction?_eq_none (List.not_mem_of_not_mem_cons pointless) true
  · exact unsignedFraction?_eq_none (List.not_mem_of_not_mem_cons pointless) false
  · exact unsignedFraction?_eq_none pointless false

namespace Value

variable {text : Text}

theorem ofBare_eq_natural_iff {n : Nat} :
    ofBare text = .natural n ↔ Denotes text n ∧ n < Nat.pow 2 64 := by
  constructor
  · intro h
    unfold ofBare at h
    split at h
    · cases h
    split at h
    · rename_i m hm
      cases h
      exact natural?_eq_some_iff.mp hm
    · split at h <;> cases h
  · rintro ⟨denotes, hsmall⟩
    have pointless : '.' ∉ text := by
      intro hpoint
      rcases denotes.isDigit_or_eq_plus hpoint with h | h <;> cases h
    rw [ofBare, fraction?_eq_none pointless, natural?_eq_some_iff.mpr ⟨denotes, hsmall⟩]

theorem ofBare_eq_integer_zero_iff :
    ofBare text = .integer 0 ↔ ∃ more, text = '-' :: '0' :: List.replicate more '0' := by
  constructor
  · intro h
    unfold ofBare at h
    split at h
    · cases h
    split at h
    · cases h
    split at h
    · rename_i i hi
      cases h
      exact integer?_eq_zero_iff.mp hi
    · cases h
  · intro minus
    have hinteger := integer?_eq_zero_iff.mpr minus
    obtain ⟨more, rfl⟩ := minus
    have pointless : '.' ∉ '-' :: '0' :: List.replicate more '0' := by simp
    have hnatural : natural? ('-' :: '0' :: List.replicate more '0') = none := rfl
    rw [ofBare, fraction?_eq_none pointless, hnatural, hinteger]

end Value

end AttributePrinter.Setting
