/-!
# Bytes and text

A byte string is a list of bytes and a text is a list of characters. Paths, attribute names and
attribute values are bytes throughout; text is what variables are read as and what messages are
made of. Nothing here interprets either.
-/

namespace AttributePrinter

abbrev Bytes := List UInt8

abbrev Text := List Char

/-- The bytes of a word of ASCII characters. -/
def asciiBytes (word : String) : Bytes :=
  word.toList.map fun c => UInt8.ofNat c.toNat

namespace Text

/-- Letters `A` to `Z` become `a` to `z`; every other character stays. -/
def lower (text : Text) : Text :=
  text.map Char.toLower

/-- Letters `a` to `z` become `A` to `Z`; every other character stays. -/
def upper (text : Text) : Text :=
  text.map Char.toUpper

/-- The pieces between the occurrences of `sep`, so always one more piece than occurrences. -/
def pieces {α : Type} [DecidableEq α] (sep : α) : List α → List (List α)
  | [] => [[]]
  | c :: rest =>
    if c = sep then [] :: pieces sep rest
    else match pieces sep rest with
      | [] => [[c]]
      | piece :: others => (c :: piece) :: others

theorem pieces_ne_nil {α : Type} [DecidableEq α] (sep : α) (text : List α) :
    pieces sep text ≠ [] := by
  cases text with
  | nil => simp [pieces]
  | cons c rest =>
    rw [pieces]
    split
    · simp
    · split <;> simp

/-- The rest of `text` behind `start`, if it starts so. -/
def behind? (start text : Text) : Option Text :=
  match start, text with
  | [], rest => some rest
  | _ :: _, [] => none
  | s :: start, c :: text => if s = c then behind? start text else none

theorem behind?_append (start rest : Text) : behind? start (start ++ rest) = some rest := by
  induction start with
  | nil => simp [behind?]
  | cons s start ih => simpa [behind?] using ih

theorem eq_append_of_behind? {start text rest : Text} (h : behind? start text = some rest) :
    text = start ++ rest := by
  induction start generalizing text with
  | nil => exact Option.some.inj h
  | cons s start ih =>
    cases text with
    | nil => cases h
    | cons c text =>
      rw [behind?] at h
      split at h
      · rename_i same
        rw [ih h, same, List.cons_append]
      · cases h

/-- The order of texts is total. -/
theorem lt_or_lt_of_ne {text other : Text} (h : text ≠ other) : text < other ∨ other < text := by
  have := Char.ltTrichotomous
  have := Char.ltAsymm
  rcases List.le_total text other with hle | hle
  · exact Or.inl ((List.le_iff_lt_or_eq.mp hle).resolve_right h)
  · exact Or.inr ((List.le_iff_lt_or_eq.mp hle).resolve_right h.symm)

theorem not_lt_of_lt {text other : Text} (h : text < other) : ¬ other < text := by
  have := Char.ltAsymm
  exact List.lt_asymm h

theorem ne_of_lt {text other : Text} (h : text < other) : text ≠ other := by
  rintro rfl
  exact List.lt_irrefl text h

/-- The characters that the first `n` bytes of the UTF-8 form spell, unless those bytes end
inside a character. -/
def takeBytes? : Nat → Text → Option Text
  | 0, _ => some []
  | _ + 1, [] => some []
  | n + 1, c :: rest =>
    if c.utf8Size ≤ n + 1 then (takeBytes? (n + 1 - c.utf8Size) rest).map (c :: ·) else none

/-- Among one-byte characters bytes and characters are counted alike. -/
theorem takeBytes?_of_ascii {n : Nat} {text : Text} (h : ∀ c ∈ text, c.utf8Size = 1) :
    takeBytes? n text = some (text.take n) := by
  induction text generalizing n with
  | nil => cases n <;> rfl
  | cons c rest ih =>
    cases n with
    | zero => rfl
    | succ n =>
      have hc : c.utf8Size = 1 := h c (by simp)
      have hrest := @ih n (fun d hd => h d (by simp [hd]))
      simp [takeBytes?, hc, hrest]

end Text

end AttributePrinter
