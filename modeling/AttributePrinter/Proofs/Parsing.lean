import AttributePrinter.Setting.Parser

/-!
# Readings that do not break down

Reading a setting breaks down where the text in front of the first escape of a quoted text is cut
inside a character. If no quoted part of the whole text is cut so, none of any end of it is, and no
reader breaks down at any depth: every reader is given an end of the text that the one before it
left. A cut takes a character of more than one byte in front of a backslash.
-/

namespace AttributePrinter.Text

/-- The character at which dropping stops is not one of those to drop. -/
theorem eq_false_of_dropWhile {p : Char → Bool} {text rest : Text} {c : Char}
    (h : text.dropWhile p = c :: rest) : p c = false := by
  have hhead := List.head?_dropWhile_not p text
  rw [h] at hhead
  exact hhead

/-- A text splits at the first place of each of its characters. -/
theorem exists_dropWhile_of_mem {text : Text} {c : Char} (h : c ∈ text) :
    ∃ rest, text.dropWhile (· ≠ c) = c :: rest := by
  cases hrest : text.dropWhile (· ≠ c) with
  | nil =>
    have hsplit := List.takeWhile_append_dropWhile (p := (· ≠ c)) (l := text)
    rw [hrest, List.append_nil] at hsplit
    have hother := List.all_eq_true.mp (List.all_takeWhile (l := text) (p := (· ≠ c))) c
    rw [hsplit] at hother
    simpa using hother h
  | cons d rest =>
    have hsame : d = c := by simpa using eq_false_of_dropWhile hrest
    exact ⟨rest, by rw [hsame]⟩

end AttributePrinter.Text

namespace AttributePrinter.Setting

/-- Only ASCII characters stand in front of any backslash. -/
def EscapesBehindAscii (text : Text) : Prop :=
  ∀ before after, text = before ++ '\\' :: after → ∀ c ∈ before, c.toNat < 0x80

namespace EscapesBehindAscii

/-- The first character beyond ASCII tells: there must be no backslash behind it. -/
theorem iff_not_mem (text : Text) :
    EscapesBehindAscii text ↔ '\\' ∉ text.dropWhile fun c => c.toNat < 0x80 := by
  have hsplit := List.takeWhile_append_dropWhile (p := fun c : Char => c.toNat < 0x80) (l := text)
  constructor
  · intro clear hmem
    obtain ⟨between, after, hrest⟩ := List.append_of_mem hmem
    cases between with
    | nil => simpa using Text.eq_false_of_dropWhile hrest
    | cons d between =>
      have hbeyond := Text.eq_false_of_dropWhile hrest
      rw [hrest, ← List.append_assoc] at hsplit
      have hascii := clear _ after hsplit.symm d (by simp)
      simp [hascii] at hbeyond
  · rintro h before after rfl c hc
    rw [List.dropWhile_append] at h
    split at h
    · rename_i hascii
      have hkept := List.takeWhile_append_dropWhile (p := fun c => c.toNat < 0x80) (l := before)
      rw [List.isEmpty_iff.mp hascii, List.append_nil] at hkept
      have hall := List.all_takeWhile (l := before) (p := fun c => c.toNat < 0x80)
      rw [hkept] at hall
      simpa using List.all_eq_true.mp hall c hc
    · simp at h

instance (text : Text) : Decidable (EscapesBehindAscii text) :=
  decidable_of_iff _ (iff_not_mem text).symm

end EscapesBehindAscii

/-- There is an escape, and in front of the first one the text has no boundary between characters
behind as many bytes as it has characters. -/
def Escape.Cuts (inside : Text) : Prop :=
  '\\' ∈ inside ∧
    Text.takeBytes? (inside.takeWhile (· ≠ '\\')).length (inside.takeWhile (· ≠ '\\')) = none

theorem Escape.cuts_of_decode {inside : Text} (h : decode inside = .error .breakdown) :
    Cuts inside := by
  simp only [decode] at h
  split at h
  · cases h
  split at h
  · cases h
  rename_i escaped
  have hslash : '\\' ∈ inside := by
    obtain ⟨c, after, hafter⟩ := List.exists_cons_of_ne_nil escaped
    have hsame : c = '\\' := by simpa using Text.eq_false_of_dropWhile hafter
    rw [hsame] at hafter
    exact (List.dropWhile_sublist _).mem (hafter ▸ List.mem_cons_self)
  split at h
  · rename_i hcut
    exact ⟨hslash, hcut⟩
  · split at h <;> cases h

/-- No quoted part of the text is cut. -/
def Uncut (text : Text) : Prop :=
  ∀ inside, ['"'] ++ inside ++ ['"'] <:+: text → ¬ Escape.Cuts inside

theorem Uncut.of_suffix {text part : Text} (uncut : Uncut text) (h : part <:+ text) : Uncut part :=
  fun inside hinside => uncut inside (hinside.trans h.isInfix)

/-- In front of the first escape characters and bytes are counted alike. -/
theorem EscapesBehindAscii.uncut {text : Text} (clear : EscapesBehindAscii text) : Uncut text := by
  rintro inside ⟨front, back, htext⟩ ⟨hslash, hcut⟩
  obtain ⟨after, hafter⟩ := Text.exists_dropWhile_of_mem hslash
  have hsplit := List.takeWhile_append_dropWhile (p := (· ≠ '\\')) (l := inside)
  rw [hafter] at hsplit
  generalize inside.takeWhile (· ≠ '\\') = before at hcut hsplit
  have hwhole : text = (front ++ '"' :: before) ++ '\\' :: (after ++ '"' :: back) := by
    rw [← htext, ← hsplit]
    simp
  have hascii : ∀ c ∈ before, c.utf8Size = 1 := by
    intro c hc
    have hsmall : c.toNat < 0x80 :=
      clear _ _ hwhole c (List.mem_append_right front (List.mem_cons_of_mem '"' hc))
    exact Char.utf8Size_eq_one_iff.mpr (Nat.le_of_lt_succ hsmall)
  rw [Text.takeBytes?_of_ascii hascii] at hcut
  cases hcut

theorem untilQuote?_eq {text inside rest : Text} (h : untilQuote? text = some (inside, rest)) :
    text = inside ++ '"' :: rest := by
  fun_induction untilQuote? text generalizing inside rest with
  | case1 => cases h
  | case2 => cases h; rfl
  | case3 c text ih =>
    obtain ⟨⟨part, behind⟩, hpart, hmade⟩ := Option.map_eq_some_iff.mp h
    cases hmade
    rw [ih hpart]
    rfl
  | case4 c text _ _ ih =>
    obtain ⟨⟨part, behind⟩, hpart, hmade⟩ := Option.map_eq_some_iff.mp h
    cases hmade
    rw [ih hpart]
    rfl

/-- What is left is an end of the text, and if nothing was read that was for the text's form. -/
def Reading.Within {α : Type} (text : Text) : Reading α → Prop
  | .ok (_, rest) => rest <:+ text
  | .error flaw => flaw = .mismatch

namespace Reading.Within

variable {α β : Type} {text part : Text} {reading : Reading α}

theorem mono (within : Within part reading) (h : part <:+ text) : Within text reading := by
  cases reading with
  | error flaw => exact within
  | ok r => exact List.IsSuffix.trans within h

theorem map {f : α × Text → β × Text} (within : Within text reading)
    (h : ∀ r, (f r).2 <:+ r.2) : Within text (reading.map f : Reading β) := by
  cases reading with
  | error flaw => exact within
  | ok r => exact (h r).trans within

end Reading.Within

open Reading (Within)

theorem skipBlanks_suffix (text : Text) : skipBlanks text <:+ text :=
  List.dropWhile_suffix _

theorem readQuoted_within {text : Text} (uncut : Uncut ('"' :: text)) :
    Within text (readQuoted text) := by
  rw [readQuoted]
  split
  · rfl
  · rename_i inside rest hquote
    have htext := untilQuote?_eq hquote
    have hinside : ['"'] ++ inside ++ ['"'] <:+: '"' :: text := ⟨[], rest, by rw [htext]; simp⟩
    have hrest : rest <:+ text := ⟨inside ++ ['"'], by rw [htext]; simp⟩
    match hdecode : Escape.decode inside with
    | .ok decoded => exact hrest
    | .error .mismatch => rfl
    | .error .breakdown => exact absurd (Escape.cuts_of_decode hdecode) (uncut inside hinside)

section Parts

variable {text : Text} (uncut : Uncut text)
include uncut

theorem readKey_within : Within text (readKey text) := by
  unfold readKey
  split
  · exact (readQuoted_within uncut).mono (List.suffix_cons '"' _)
  · split
    · rfl
    · exact List.dropWhile_suffix _

theorem readKeySign_within : Within text (readKeySign text) := by
  have hblanks := skipBlanks_suffix text
  have hkey := (readKey_within (uncut.of_suffix hblanks)).mono hblanks
  rw [readKeySign]
  cases hread : readKey (skipBlanks text) with
  | error flaw =>
    rw [hread] at hkey
    exact hkey
  | ok r =>
    obtain ⟨key, rest⟩ := r
    rw [hread] at hkey
    simp only
    split
    · rename_i behind hsign
      have hbehind : behind <:+ skipBlanks rest := hsign ▸ List.suffix_cons '=' behind
      exact (hbehind.trans (skipBlanks_suffix rest)).trans hkey
    · rfl

end Parts

theorem readChar_within (text : Text) : Within text (readChar text) := by
  unfold readChar
  split
  · exact (List.suffix_cons _ _).trans (List.suffix_cons _ _)
  · rfl

/-- The text behind what announces the form. -/
def Form.rest : Form → Text
  | .whole _ rest | .quoted rest | .char rest | .list rest | .dict rest => rest

theorem formOf_rest (text : Text) : (formOf text).rest <:+ text := by
  unfold formOf
  split
  · rename_i rest htrue
    exact ⟨_, (Text.eq_append_of_behind? htrue).symm⟩
  split
  · rename_i rest hfalse
    exact ⟨_, (Text.eq_append_of_behind? hfalse).symm⟩
  split
  · exact List.suffix_cons _ _
  · exact List.suffix_cons _ _
  · exact List.suffix_cons _ _
  · exact List.suffix_cons _ _
  · exact List.dropWhile_suffix _

theorem eq_of_formOf_quoted {text rest : Text} (h : formOf text = .quoted rest) :
    text = '"' :: rest := by
  unfold formOf at h
  split at h
  · cases h
  split at h
  · cases h
  split at h
  · cases h
  · cases h
  · cases h
    rfl
  · cases h
  · cases h

/-- No reader breaks down under this count. -/
structure Reading.Sound (count : Nat) : Prop where
  value {text : Text} (uncut : Uncut text) : Within text (readValue count text)
  items {text : Text} (uncut : Uncut text) : Within text (readItems count text)
  entries {text : Text} (uncut : Uncut text) : Within text (readEntries count text)

namespace Reading.Sound

variable {count : Nat} {text : Text} (sound : Sound count) (uncut : Uncut text)
include sound uncut

theorem readValue_succ : Within text (readValue (count + 1) text) := by
  rw [readValue]
  refine Within.map ?_ fun r => skipBlanks_suffix r.2
  have hrest := (formOf_rest (skipBlanks text)).trans (skipBlanks_suffix text)
  have uncutRest := uncut.of_suffix hrest
  generalize hform : formOf (skipBlanks text) = form at hrest uncutRest
  cases form with
  | whole value rest => exact hrest
  | quoted rest =>
    have uncutQuoted := uncut.of_suffix (skipBlanks_suffix text)
    rw [eq_of_formOf_quoted hform] at uncutQuoted
    have hquoted := (readQuoted_within uncutQuoted).mono hrest
    exact hquoted.map fun _ => List.suffix_rfl
  | char rest => exact (readChar_within rest).mono hrest
  | list rest =>
    have hitems := (sound.items uncutRest).mono hrest
    exact hitems.map fun _ => List.suffix_rfl
  | dict rest =>
    have hentries := (sound.entries uncutRest).mono hrest
    exact hentries.map fun _ => List.suffix_rfl

theorem readItems_succ : Within text (readItems (count + 1) text) := by
  rw [readItems.eq_def]
  split
  · contradiction
  · exact List.suffix_cons _ _
  rename_i text _ _ _ same _
  cases same
  have hvalue := sound.value uncut
  split
  · rename_i flaw hread
    rw [hread] at hvalue
    exact hvalue
  · rename_i item rest hread
    rw [hread] at hvalue
    have hrest : rest <:+ text := (List.suffix_cons ',' rest).trans hvalue
    have hitems := (sound.items (uncut.of_suffix hrest)).mono hrest
    exact hitems.map fun _ => List.suffix_rfl
  · rename_i item rest hread
    rw [hread] at hvalue
    exact (List.suffix_cons ']' rest).trans hvalue
  · rfl

theorem readEntries_succ : Within text (readEntries (count + 1) text) := by
  rw [readEntries.eq_def]
  split
  · contradiction
  · exact List.suffix_cons _ _
  rename_i text _ _ _ same _
  cases same
  have hkey := readKeySign_within uncut
  split
  · rename_i flaw hread
    rw [hread] at hkey
    exact hkey
  rename_i key behind hread
  rw [hread] at hkey
  have hvalue := (sound.value (uncut.of_suffix hkey)).mono hkey
  split
  · rename_i flaw hread
    rw [hread] at hvalue
    exact hvalue
  · rename_i value rest hread
    rw [hread] at hvalue
    have hrest : rest <:+ text := (List.suffix_cons ',' rest).trans hvalue
    have hentries := (sound.entries (uncut.of_suffix hrest)).mono hrest
    exact hentries.map fun _ => List.suffix_rfl
  · rename_i value rest hread
    rw [hread] at hvalue
    exact (List.suffix_cons '\x7D' rest).trans hvalue
  · rfl

end Reading.Sound

theorem Reading.sound (count : Nat) : Sound count := by
  induction count with
  | zero => exact ⟨fun _ => rfl, fun _ => rfl, fun _ => rfl⟩
  | succ count ih => exact ⟨ih.readValue_succ, ih.readItems_succ, ih.readEntries_succ⟩

theorem Value.isSome_ofText? {text : Text} (uncut : Uncut text) :
    (Value.ofText? text).isSome = true := by
  have within := (Reading.sound (2 * text.length + 3)).value uncut
  unfold Value.ofText?
  split
  · rfl
  · rfl
  · rfl
  · rename_i hread
    rw [hread] at within
    cases within

end AttributePrinter.Setting
