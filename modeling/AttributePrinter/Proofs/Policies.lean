import AttributePrinter.Proofs.Spelling
import AttributePrinter.Proofs.WholeTexts

/-!
# Policies as they are written

A policy is written as its name with only blanks around it, or as one quoted text that spells the
name, with or without escapes. A name is an ASCII word, so a reading that loses characters in front
of an escape takes no text for a name that does not spell it and refuses none that does. No list,
dictionary or single character is a policy.
-/

namespace AttributePrinter.Setting

theorem policyOf_eq_ok_iff {value : Value} {policy : Policy} :
    policyOf value = .ok policy ↔ value = .text policy.name.toList := by
  constructor
  · intro h
    cases value with
    | text t =>
      rw [policyOf] at h
      split at h
      · rename_i named hnamed
        cases h
        rw [Policy.ofName?_eq_some_iff.mp hnamed]
      · cases h
    | dict entries =>
      obtain ⟨error, herror⟩ := policyOf_dict entries
      cases herror.symm.trans h
    | bool | natural | integer | fraction | char | list => cases h
  · rintro rfl
    rw [policyOf, Policy.ofName?_eq_some_iff.mpr rfl]

theorem Value.eq_of_ofBare_eq_text {text t : Text} (h : Value.ofBare text = .text t) :
    text = t := by
  unfold Value.ofBare at h
  split at h
  · cases h
  split at h
  · cases h
  split at h
  · cases h
  · exact Value.text.inj h

def isWordChar (c : Char) : Bool :=
  !isSeparator c && c.utf8Size == 1 && Escape.isPlain c && c != '"'

/-- A text of plain ASCII characters that reading gives back as it is. -/
structure IsWord (text : Text) : Prop where
  bare : Value.ofBare text = .text text
  trimmed : Text.trim text = text
  all_isWordChar : text.all isWordChar = true
  head_unannounced : text.head?.all (!announcesForm ·) = true

theorem isWord_policyName (policy : Policy) : IsWord policy.name.toList := by
  cases policy with
  | legacy => exact ⟨rfl, rfl, rfl, rfl⟩
  | strict => exact ⟨rfl, rfl, rfl, rfl⟩

section Word

variable {text word : Text} (isWord : IsWord word)
include isWord

theorem IsWord.of_mem {c : Char} (h : c ∈ word) :
    isSeparator c = false ∧ c.utf8Size = 1 ∧ Escape.isPlain c = true ∧ c ≠ '"' := by
  have hc := List.all_eq_true.mp isWord.all_isWordChar c h
  simpa [isWordChar, and_assoc] using hc

theorem IsWord.announcesForm_head : ∀ c ∈ word.head?, announcesForm c = false := by
  intro c hc
  have hhead := isWord.head_unannounced
  rw [Option.mem_def.mp hc] at hhead
  simpa using hhead

theorem IsWord.decode_eq_ok_iff {inside : Text} :
    Escape.decode inside = .ok word ↔ Escape.Spells inside word := by
  rw [Escape.decode_eq_ok_iff fun c hc => (isWord.of_mem hc).2.1]
  exact ⟨Escape.spells_of_expand?, fun spells =>
    spells.expand? fun c hc => (isWord.of_mem hc).2.2.1⟩

/-- A word is written as it is or between quotes. -/
theorem ofText?_eq_word_iff :
    Value.ofText? text = some (.text word) ↔ Text.trim text = word ∨
      ∃ before inside behind, text = before ++ '"' :: inside ++ '"' :: behind ∧
        (∀ c ∈ before, Text.isAsciiBlank c = true) ∧
        (∀ c ∈ behind, Text.isAsciiBlank c = true) ∧ Escape.Spells inside word := by
  constructor
  · intro h
    generalize hvalue : Value.text word = value at h
    cases stands_of_ofText? h with
    | bare => exact Or.inl (Value.eq_of_ofBare_eq_text hvalue.symm)
    | quoted split blankBefore blankBehind hdecode =>
      cases hvalue
      exact Or.inr ⟨_, _, _, split, blankBefore, blankBehind, isWord.decode_eq_ok_iff.mp hdecode⟩
    | itself =>
      cases hvalue
      exact Or.inl isWord.trimmed
    | truth | char | list | dict => cases hvalue
  · rintro (htrim | ⟨before, inside, behind, rfl, blankBefore, blankBehind, spells⟩)
    · have hread : Value.ofText? text = some (.ofBare (Text.trim text)) := by
        apply ofText?_of_bare
        · rw [htrim]
          exact fun c hc => (isWord.of_mem hc).1
        · rw [htrim]
          exact isWord.announcesForm_head
      rw [hread, htrim, isWord.bare]
    · have unquoted : '"' ∉ word := fun h => (isWord.of_mem h).2.2.2 rfl
      exact ofText?_of_quoted blankBefore blankBehind
        (Escape.untilQuote?_of_spells spells unquoted behind) (isWord.decode_eq_ok_iff.mpr spells)

end Word

end AttributePrinter.Setting

namespace AttributePrinter.Config

open Setting

theorem load_policy_iff {v : Variable} (path : v.path? = some [policyKey]) (config : Config) :
    load [v] = .ok config ↔ config.capacity = defaultCapacity ∧
      v.read? = some (.text config.policy.name.toList) := by
  cases read : v.read? with
  | none =>
    rw [load_alone_of_unread path read]
    simp
  | some value =>
    rw [load_alone_of_read path read, if_neg capacityKey_ne_policyKey.symm, if_pos rfl, ofFields,
      orStandard_none]
    simp only [orStandard, Option.some.injEq, ← policyOf_eq_ok_iff]
    obtain ⟨capacity, policy⟩ := config
    cases policyOf value with
    | error error => simp [Except.mapError]
    | ok named =>
      simp only [check_standard, Except.mapError]
      constructor
      · rintro ⟨⟩
        exact ⟨rfl, rfl⟩
      · rintro ⟨rfl, ⟨⟩⟩
        rfl

/-- A variable with the policy alone gives a configuration exactly if its text, trimmed, is the name
of a policy, or if it is one quoted text, with only ASCII blanks around it, that spells the name. -/
theorem load_written_policy (v : Bytes) (config : Config) :
    load [⟨asciiBytes "GETXATTR_EXIT_POLICY", v⟩] = .ok config ↔
      config.capacity = 4096 ∧
        (Text.trim (Text.ofBytes v) = config.policy.name.toList ∨
          ∃ before inside behind, Text.ofBytes v = before ++ '"' :: inside ++ '"' :: behind ∧
            (∀ c ∈ before, Text.isAsciiBlank c = true) ∧
            (∀ c ∈ behind, Text.isAsciiBlank c = true) ∧
            Escape.Spells inside config.policy.name.toList) := by
  have named : Variable.path? ⟨asciiBytes "GETXATTR_EXIT_POLICY", []⟩ = some [policyKey] := by
    decide +kernel
  have path : Variable.path? ⟨asciiBytes "GETXATTR_EXIT_POLICY", v⟩ = some [policyKey] :=
    (Variable.path?_congr rfl).trans named
  refine (load_policy_iff path config).trans (and_congr_right fun _ => ?_)
  exact ofText?_eq_word_iff (isWord_policyName config.policy)

/-- A letter of the name is written as an escape. -/
example : load [⟨asciiBytes "GETXATTR_EXIT_POLICY", asciiBytes "\t\"str\\u0069ct\" "⟩] =
    .ok ⟨4096, .strict⟩ := by
  decide +kernel

end AttributePrinter.Config
