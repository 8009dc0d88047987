import AttributePrinter.Text.Basic

/-!
# Blanks

The characters with the Unicode property White_Space, and a text without the blanks at its ends.
The five blanks of ASCII that separate the tokens of a setting are a class of their own: the
vertical tab is not among them.
-/

namespace AttributePrinter.Text

def isBlank (c : Char) : Bool :=
  let n := c.toNat
  (0x09 ≤ n && n ≤ 0x0D) || n == 0x20 || n == 0x85 || n == 0xA0 || n == 0x1680 ||
    (0x2000 ≤ n && n ≤ 0x200A) || n == 0x2028 || n == 0x2029 || n == 0x202F || n == 0x205F ||
    n == 0x3000

/-- Space, tab, newline, form feed and carriage return. -/
def isAsciiBlank (c : Char) : Bool :=
  c == ' ' || c == '\t' || c == '\n' || c == '\x0C' || c == '\r'

def trimStart (text : Text) : Text :=
  text.dropWhile isBlank

def trimEnd (text : Text) : Text :=
  (text.reverse.dropWhile isBlank).reverse

def trim (text : Text) : Text :=
  trimEnd (trimStart text)

theorem isBlank_of_isAsciiBlank {c : Char} (h : isAsciiBlank c = true) : isBlank c = true := by
  simp only [isAsciiBlank, Bool.or_eq_true, beq_iff_eq] at h
  rcases h with (((rfl | rfl) | rfl) | rfl) | rfl <;> rfl

theorem trimStart_split (text : Text) :
    ∃ front, text = front ++ trimStart text ∧ ∀ c ∈ front, isBlank c = true :=
  ⟨text.takeWhile isBlank, List.takeWhile_append_dropWhile.symm,
    List.all_eq_true.mp List.all_takeWhile⟩

theorem trimEnd_split (text : Text) :
    ∃ back, text = trimEnd text ++ back ∧ ∀ c ∈ back, isBlank c = true := by
  obtain ⟨front, htext, hblank⟩ := trimStart_split text.reverse
  refine ⟨front.reverse, ?_, fun c hc => hblank c (List.mem_reverse.mp hc)⟩
  calc text = text.reverse.reverse := text.reverse_reverse.symm
    _ = (front ++ trimStart text.reverse).reverse := by rw [← htext]
    _ = trimEnd text ++ front.reverse := List.reverse_append

/-- Only blanks are trimmed. -/
theorem trim_split (text : Text) :
    ∃ front back, text = front ++ trim text ++ back ∧ (∀ c ∈ front, isBlank c = true) ∧
      ∀ c ∈ back, isBlank c = true := by
  obtain ⟨front, hstart, hfront⟩ := trimStart_split text
  obtain ⟨back, hend, hback⟩ := trimEnd_split (trimStart text)
  refine ⟨front, back, ?_, hfront, hback⟩
  rw [trim, List.append_assoc, ← hend, ← hstart]

theorem mem_trim_or_isBlank {text : Text} {c : Char} (h : c ∈ text) :
    c ∈ trim text ∨ isBlank c = true := by
  obtain ⟨front, back, htext, hfront, hback⟩ := trim_split text
  rw [htext, List.mem_append, List.mem_append] at h
  rcases h with (hc | hc) | hc
  · exact Or.inr (hfront c hc)
  · exact Or.inl hc
  · exact Or.inr (hback c hc)

/-- Blanks dropped before are not missed. -/
theorem trim_dropWhile {p : Char → Bool} (blank : ∀ c, p c = true → isBlank c = true)
    (text : Text) : trim (text.dropWhile p) = trim text := by
  have hstart : trimStart (text.dropWhile p) = trimStart text := by
    induction text with
    | nil => rfl
    | cons c rest ih =>
      rw [List.dropWhile_cons]
      split
      · rename_i hc
        rw [ih, trimStart, trimStart, List.dropWhile_cons_of_pos (blank c hc)]
      · rfl
  rw [trim, hstart, trim]

/-- A text that does not start with a blank keeps its first character. -/
theorem head?_trim_of_cons {c : Char} {rest : Text} (h : isBlank c = false) :
    (trim (c :: rest)).head? = some c := by
  have hstart : trimStart (c :: rest) = c :: rest := by
    rw [trimStart, List.dropWhile_cons_of_neg (by simp [h])]
  obtain ⟨back, hend, hback⟩ := trimEnd_split (c :: rest)
  rw [trim, hstart]
  cases hkept : trimEnd (c :: rest) with
  | nil =>
    rw [hkept, List.nil_append] at hend
    have hblank := hback c (hend ▸ List.mem_cons_self)
    simp [h] at hblank
  | cons d kept =>
    rw [hkept, List.cons_append] at hend
    rw [(List.cons.inj hend).1, List.head?_cons]

end AttributePrinter.Text
