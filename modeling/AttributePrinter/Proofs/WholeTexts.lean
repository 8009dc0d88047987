import AttributePrinter.Proofs.Overriding
import AttributePrinter.Proofs.Parsing
import Mathlib.Data.List.TakeWhile

/-!
# What a whole text stands for

A text is read to its end or stands for itself. If it is a text without brackets, quotes and commas
around which only blanks were left, it stands for a number or for what is between the blanks; if it
is one quoted text with only ASCII blanks around it, for what the quotes enclose. Every other way to
come to a value gives one that neither field takes, so the setting of a variable that stands alone
is settled by these two.
-/

namespace AttributePrinter.Setting

/-- How a text can stand for a value. What is inside lists, dictionaries and single quotes is not
told. -/
inductive Stands (text : Text) : Value → Prop where
  | truth (b : Bool) : Stands text (.bool b)
  | bare : Stands text (.ofBare (Text.trim text))
  | quoted {before inside behind decoded : Text}
      (split : text = before ++ '"' :: inside ++ '"' :: behind)
      (blankBefore : ∀ c ∈ before, Text.isAsciiBlank c = true)
      (blankBehind : ∀ c ∈ behind, Text.isAsciiBlank c = true)
      (decodes : Escape.decode inside = .ok decoded) : Stands text (.text decoded)
  | char (c : Char) : Stands text (.char c)
  | list (items : List Value) : Stands text (.list items)
  | dict (entries : Entries) : Stands text (.dict entries)
  | itself : Stands text (.text text)

/-- Nothing but blanks is skipped. -/
theorem skipBlanks_split (text : Text) :
    ∃ before, text = before ++ skipBlanks text ∧ ∀ c ∈ before, Text.isAsciiBlank c = true :=
  ⟨text.takeWhile Text.isAsciiBlank, List.takeWhile_append_dropWhile.symm,
    List.all_eq_true.mp List.all_takeWhile⟩

theorem trim_skipBlanks (text : Text) : Text.trim (skipBlanks text) = Text.trim text :=
  Text.trim_dropWhile (fun _ => Text.isBlank_of_isAsciiBlank) text

theorem skipBlanks_eq_nil_iff {text : Text} :
    skipBlanks text = [] ↔ ∀ c ∈ text, Text.isAsciiBlank c = true :=
  List.dropWhile_eq_nil_iff

/-- No blank ends a bare text. -/
theorem isSeparator_of_isBlank {c : Char} (h : Text.isBlank c = true) : isSeparator c = false := by
  cases hsep : isSeparator c with
  | false => rfl
  | true =>
    simp only [isSeparator, Bool.or_eq_true, beq_iff_eq] at hsep
    rcases hsep with (((rfl | rfl) | rfl) | rfl) | rfl <;> cases h

/-- A bare text with only blanks behind it is all there is: what would end it is no blank. -/
theorem readBare_of_whole {text : Text} (h : skipBlanks (readBare text).2 = []) :
    (readBare text).1 = .ofBare (Text.trim text) := by
  have hrest : text.dropWhile (!isSeparator ·) = [] := by
    rw [skipBlanks_eq_nil_iff] at h
    cases hrest : text.dropWhile (!isSeparator ·) with
    | nil => rfl
    | cons c rest =>
      have hmem : c ∈ text.dropWhile (!isSeparator ·) := by simp [hrest]
      have hblank := Text.isBlank_of_isAsciiBlank (h c hmem)
      have hstop := Text.eq_false_of_dropWhile hrest
      simp [isSeparator_of_isBlank hblank] at hstop
  have hsplit := List.takeWhile_append_dropWhile (p := (!isSeparator ·)) (l := text)
  rw [hrest, List.append_nil] at hsplit
  simp only [readBare, hsplit]

theorem whole_of_formOf {text rest : Text} {value : Value} (h : formOf text = .whole value rest) :
    (∃ b, value = .bool b) ∨ value = (readBare text).1 ∧ rest = (readBare text).2 := by
  unfold formOf at h
  split at h
  · cases h
    exact Or.inl ⟨true, rfl⟩
  split at h
  · cases h
    exact Or.inl ⟨false, rfl⟩
  split at h
  · cases h
  · cases h
  · cases h
  · cases h
  · cases h
    exact Or.inr ⟨rfl, rfl⟩

theorem exists_of_map_eq_ok {ε α β : Type} {f : α → β} {x : Except ε α} {b : β}
    (h : x.map f = .ok b) : ∃ a, x = .ok a ∧ f a = b := by
  cases x with
  | error e => cases h
  | ok a => exact ⟨a, rfl, Except.ok.inj h⟩

theorem readQuoted_eq_ok {text decoded rest : Text} (h : readQuoted text = .ok (decoded, rest)) :
    ∃ inside, untilQuote? text = some (inside, rest) ∧ Escape.decode inside = .ok decoded := by
  unfold readQuoted at h
  split at h
  · cases h
  · rename_i inside behind hquote
    obtain ⟨t, hdecode, hmade⟩ := exists_of_map_eq_ok h
    obtain ⟨rfl, rfl⟩ := Prod.mk.inj hmade
    exact ⟨inside, hquote, hdecode⟩

/-- One case for each form that a text can announce. -/
theorem stands_of_readValue {count : Nat} {text : Text} {value : Value}
    (h : readValue count text = .ok (value, [])) : Stands text value := by
  cases count with
  | zero => cases h
  | succ count =>
    rw [readValue] at h
    obtain ⟨⟨read, rest⟩, hread, hmade⟩ := exists_of_map_eq_ok h
    obtain ⟨rfl, hblank⟩ := Prod.mk.inj hmade
    cases hform : formOf (skipBlanks text) with
    | whole made behind =>
      rw [hform] at hread
      obtain ⟨rfl, rfl⟩ := Prod.mk.inj (Except.ok.inj hread)
      rcases whole_of_formOf hform with ⟨b, rfl⟩ | ⟨hvalue, hrest⟩
      · exact .truth b
      · have hall : skipBlanks (readBare (skipBlanks text)).2 = [] := by rwa [← hrest]
        rw [hvalue, readBare_of_whole hall, trim_skipBlanks]
        exact .bare
    | quoted behind =>
      rw [hform] at hread
      obtain ⟨⟨decoded, rest⟩, hquoted, hmade⟩ := exists_of_map_eq_ok hread
      obtain ⟨rfl, rfl⟩ := Prod.mk.inj hmade
      obtain ⟨inside, huntil, hdecode⟩ := readQuoted_eq_ok hquoted
      obtain ⟨before, hsplit, hbefore⟩ := skipBlanks_split text
      rw [eq_of_formOf_quoted hform, untilQuote?_eq huntil] at hsplit
      exact .quoted (by simpa using hsplit) hbefore (skipBlanks_eq_nil_iff.mp hblank) hdecode
    | char behind =>
      rw [hform] at hread
      simp only [readChar] at hread
      split at hread
      · rename_i c rest
        obtain ⟨rfl, rfl⟩ := Prod.mk.inj (Except.ok.inj hread)
        exact .char c
      · cases hread
    | list behind =>
      rw [hform] at hread
      obtain ⟨⟨items, rest⟩, -, hmade⟩ := exists_of_map_eq_ok hread
      obtain ⟨rfl, rfl⟩ := Prod.mk.inj hmade
      exact .list items
    | dict behind =>
      rw [hform] at hread
      obtain ⟨⟨entries, rest⟩, -, hmade⟩ := exists_of_map_eq_ok hread
      obtain ⟨rfl, rfl⟩ := Prod.mk.inj hmade
      exact .dict _

theorem stands_of_ofText? {text : Text} {value : Value} (h : Value.ofText? text = some value) :
    Stands text value := by
  unfold Value.ofText? at h
  split at h
  · rename_i hread
    cases h
    exact stands_of_readValue hread
  · cases h
    exact .itself
  · cases h
    exact .itself
  · cases h

/-- The characters that announce a form other than a bare text, brackets aside. -/
def announcesForm (c : Char) : Bool :=
  c == 't' || c == 'f' || c == '"' || c == '\''

theorem announcesForm_of_isBlank {c : Char} (h : Text.isBlank c = true) :
    announcesForm c = false := by
  cases hform : announcesForm c with
  | false => rfl
  | true =>
    simp only [announcesForm, Bool.or_eq_true, beq_iff_eq] at hform
    rcases hform with ((rfl | rfl) | rfl) | rfl <;> cases h

theorem behind?_of_ne {s : Char} {start text : Text} (h : ∀ c ∈ text.head?, c ≠ s) :
    Text.behind? (s :: start) text = none := by
  cases text with
  | nil => rfl
  | cons c rest =>
    have hne : s ≠ c := (h c rfl).symm
    rw [Text.behind?, if_neg hne]

theorem formOf_of_head {text : Text}
    (head : ∀ c ∈ text.head?, announcesForm c = false ∧ isSeparator c = false) :
    formOf text = .whole (readBare text).1 (readBare text).2 := by
  have htrue : Text.behind? "true".toList text = none := by
    refine behind?_of_ne fun c hc => ?_
    rintro rfl
    cases (head _ hc).1
  have hfalse : Text.behind? "false".toList text = none := by
    refine behind?_of_ne fun c hc => ?_
    rintro rfl
    cases (head _ hc).1
  unfold formOf
  rw [htrue, hfalse]
  simp only
  split
  · cases (head _ rfl).2
  · cases (head _ rfl).2
  · cases (head _ rfl).1
  · cases (head _ rfl).1
  · rfl

theorem ofText?_of_readValue {text : Text} {value : Value}
    (h : ∀ count, readValue (count + 1) text = .ok (value, [])) :
    Value.ofText? text = some value := by
  rw [Value.ofText?, h]

/-- A text is bare if what is between its blanks neither starts nor stops as another form. -/
theorem ofText?_of_bare {text : Text} (whole : ∀ c ∈ Text.trim text, isSeparator c = false)
    (head : ∀ c ∈ (Text.trim text).head?, announcesForm c = false) :
    Value.ofText? text = some (.ofBare (Text.trim text)) := by
  have hwhole : ∀ c ∈ skipBlanks text, isSeparator c = false := by
    intro c hc
    rcases Text.mem_trim_or_isBlank hc with htrim | hblank
    · rw [trim_skipBlanks] at htrim
      exact whole c htrim
    · exact isSeparator_of_isBlank hblank
  have hhead : ∀ c ∈ (skipBlanks text).head?, announcesForm c = false := by
    intro c hc
    obtain ⟨rest, hrest⟩ := List.head?_eq_some_iff.mp hc
    cases hblank : Text.isBlank c with
    | true => exact announcesForm_of_isBlank hblank
    | false =>
      apply head
      rw [← trim_skipBlanks, hrest]
      exact Text.head?_trim_of_cons hblank
  have hform := formOf_of_head fun c hc => ⟨hhead c hc, hwhole c (List.mem_of_mem_head? hc)⟩
  have hrest : (readBare (skipBlanks text)).2 = [] := by
    rw [readBare, List.dropWhile_eq_nil_iff]
    intro c hc
    rw [hwhole c hc]
    rfl
  have hall : skipBlanks (readBare (skipBlanks text)).2 = [] := by
    rw [hrest]
    rfl
  refine ofText?_of_readValue fun count => ?_
  rw [readValue, hform]
  simp only [beforeBlanks, Except.map]
  rw [hall, readBare_of_whole hall, trim_skipBlanks]

/-- A quoted text stands for what it decodes to. -/
theorem ofText?_of_quoted {before inside behind decoded : Text}
    (blankBefore : ∀ c ∈ before, Text.isAsciiBlank c = true)
    (blankBehind : ∀ c ∈ behind, Text.isAsciiBlank c = true)
    (closes : untilQuote? (inside ++ '"' :: behind) = some (inside, behind))
    (decodes : Escape.decode inside = .ok decoded) :
    Value.ofText? (before ++ '"' :: inside ++ '"' :: behind) = some (.text decoded) := by
  have hskip : skipBlanks (before ++ '"' :: inside ++ '"' :: behind) =
      '"' :: (inside ++ '"' :: behind) := by
    rw [List.append_assoc, List.cons_append, skipBlanks,
      List.dropWhile_append_of_pos blankBefore]
    rfl
  have hform : formOf ('"' :: (inside ++ '"' :: behind)) = .quoted (inside ++ '"' :: behind) := rfl
  have hread : readQuoted (inside ++ '"' :: behind) = .ok (decoded, behind) := by
    rw [readQuoted, closes]
    simp only [decodes]
    rfl
  refine ofText?_of_readValue fun count => ?_
  rw [readValue, hskip, hform]
  simp only [hread, beforeBlanks, Except.map]
  rw [skipBlanks_eq_nil_iff.mpr blankBehind]

/-- The key of a variable tells what it contributes to. -/
theorem Variable.path?_congr {v other : Variable} (same : v.key = other.key) :
    v.path? = other.path? := by
  rw [path?, path?, same]

end AttributePrinter.Setting

namespace AttributePrinter.Config

open Setting

section Alone

variable {v : Variable} {key : Text} (path : v.path? = some [key])
include path

theorem load_alone_of_unread (unread : v.read? = none) : load [v] = .error .breakdown := by
  simp [load, Environment.settings?, Environment.contributions?, path, unread]

/-- A variable alone settles the field of its key and leaves the other as it is. -/
theorem load_alone_of_read {value : Value} (read : v.read? = some value) :
    load [v] = (ofFields (if key = capacityKey then some value else none)
      (if key = policyKey then some value else none)).mapError .rejected := by
  have readable : Environment.Readable [v] := by
    intro u hu _
    rw [List.mem_singleton.mp hu, read]
    rfl
  have hsetting : ∀ other, Environment.setting? [v] other =
      if key = other then some value else none := by
    intro other
    by_cases same : key = other
    · subst same
      rw [if_pos rfl]
      exact Environment.setting?_last_word [] path read (by simp)
    · have hunder : v.isUnder other = false := by simp [Variable.isUnder, path, same]
      have hnone : Environment.under [v] other = [] :=
        Environment.under_eq_nil_of_none fun u hu => by rw [List.mem_singleton.mp hu, hunder]
      rw [if_neg same, Environment.setting?, hnone]
      rfl
  rw [load_eq_ofFields readable, hsetting, hsetting]

end Alone

end AttributePrinter.Config
