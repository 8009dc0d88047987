import AttributePrinter.Setting.Parser

/-!
# What a quoted text spells

A quoted text spells a text if each character of it is there as itself or as an escape. The reading
that settings get measures what is in front of the first escape in characters and keeps as many
bytes. It differs from what is spelled only where a character of more than one byte stands there:
then either such a character is kept, and stands in both readings, or what is in front is cut.
So both readings give the same where one of them gives an ASCII text.
-/

namespace AttributePrinter.Text

/-- If only one-byte characters were taken, all of them were: there was one for each byte. -/
theorem eq_take_of_takeBytes? {n : Nat} {text kept : Text} (h : takeBytes? n text = some kept)
    (ascii : ∀ c ∈ kept, c.utf8Size = 1) (enough : n ≤ text.length) : kept = text.take n := by
  fun_induction takeBytes? n text generalizing kept with
  | case1 text => exact (Option.some.inj h).symm
  | case2 n => cases enough
  | case3 n c rest fits ih =>
    obtain ⟨more, hmore, rfl⟩ := Option.map_eq_some_iff.mp h
    have hc : c.utf8Size = 1 := ascii c List.mem_cons_self
    rw [hc, Nat.add_sub_cancel] at ih hmore
    rw [List.take_succ_cons,
      ih hmore (fun d hd => ascii d (List.mem_cons_of_mem c hd)) (Nat.le_of_succ_le_succ enough)]
  | case4 => cases h

/-- As many bytes as there are characters are all of them, if what they make up is ASCII. -/
theorem takeBytes?_length_append_iff {before text : Text} (ascii : ∀ c ∈ text, c.utf8Size = 1)
    (rest : Text) :
    (∃ kept, takeBytes? before.length before = some kept ∧ kept ++ rest = text) ↔
      before ++ rest = text := by
  constructor
  · rintro ⟨kept, htaken, rfl⟩
    have hall := eq_take_of_takeBytes? htaken (fun c hc => ascii c (List.mem_append_left rest hc))
      (Nat.le_refl _)
    rw [hall, List.take_length]
  · rintro rfl
    have htaken := @takeBytes?_of_ascii before.length before
      fun c hc => ascii c (List.mem_append_left rest hc)
    rw [List.take_length] at htaken
    exact ⟨before, htaken, rfl⟩

end AttributePrinter.Text

namespace AttributePrinter.Setting.Escape

/-- A text that spells another has an escape for a character or the character itself. -/
inductive Spells : Text → Text → Prop where
  | nil : Spells [] []
  | itself {c : Char} {inside text : Text} (unescaped : c ≠ '\\') (rest : Spells inside text) :
    Spells (c :: inside) (c :: text)
  | short {c x : Char} {inside text : Text} (stands : short? c = some x)
    (rest : Spells inside text) : Spells ('\\' :: c :: inside) (x :: text)
  | code {digits inside text : Text} {x : Char} (four : digits.length = 4)
    (stands : hexChar? digits = some x) (rest : Spells inside text) :
    Spells ('\\' :: 'u' :: digits ++ inside) (x :: text)
  | longCode {digits inside text : Text} {x : Char} (eight : digits.length = 8)
    (stands : hexChar? digits = some x) (rest : Spells inside text) :
    Spells ('\\' :: 'U' :: digits ++ inside) (x :: text)

theorem expand?_cons_of_ne {c : Char} (unescaped : c ≠ '\\') (rest : Text) :
    expand? (c :: rest) = if isPlain c then (expand? rest).map (c :: ·) else none := by
  rw [expand?]
  · simp [unescaped]
  -- Every other pattern starts with a backslash.
  all_goals
    intros
    simp_all

theorem expand?_short {c x : Char} (stands : short? c = some x) (rest : Text) :
    expand? ('\\' :: c :: rest) = (expand? rest).map (x :: ·) := by
  rw [expand?, stands, Option.bind_some]
  · rintro a b c d more rfl -
    cases stands
  · rintro a b c d e f g h more rfl -
    cases stands

theorem expand?_code {digits : Text} (four : digits.length = 4) {x : Char}
    (stands : hexChar? digits = some x) (rest : Text) :
    expand? ('\\' :: 'u' :: digits ++ rest) = (expand? rest).map (x :: ·) := by
  match digits, four with
  | [a, b, c, d], _ => simp [expand?, stands]

theorem expand?_longCode {digits : Text} (eight : digits.length = 8) {x : Char}
    (stands : hexChar? digits = some x) (rest : Text) :
    expand? ('\\' :: 'U' :: digits ++ rest) = (expand? rest).map (x :: ·) := by
  match digits, eight with
  | [a, b, c, d, e, f, g, h], _ => simp [expand?, stands]

/-- An escape that is replaced was one, and the rest was replaced as well. -/
theorem exists_of_escape {escaped : Option Char} {rest text : Text}
    (h : (escaped.bind fun x => (expand? rest).map (x :: ·)) = some text) :
    ∃ x more, escaped = some x ∧ expand? rest = some more ∧ text = x :: more := by
  obtain ⟨x, hx, hrest⟩ := Option.bind_eq_some_iff.mp h
  obtain ⟨more, hmore, rfl⟩ := Option.map_eq_some_iff.mp hrest
  exact ⟨x, more, hx, hmore, rfl⟩

theorem spells_of_expand? {inside text : Text} (h : expand? inside = some text) :
    Spells inside text := by
  fun_induction expand? inside generalizing text with
  | case1 =>
    cases h
    exact .nil
  | case2 a b c d rest ih =>
    obtain ⟨x, more, stands, hmore, rfl⟩ := exists_of_escape h
    exact .code (rfl : [a, b, c, d].length = 4) stands (ih hmore)
  | case3 a b c d e f g last rest ih =>
    obtain ⟨x, more, stands, hmore, rfl⟩ := exists_of_escape h
    exact .longCode (rfl : [a, b, c, d, e, f, g, last].length = 8) stands (ih hmore)
  | case4 c rest _ _ ih =>
    obtain ⟨x, more, stands, hmore, rfl⟩ := exists_of_escape h
    exact .short stands (ih hmore)
  | case5 c rest _ _ _ kept ih =>
    obtain ⟨more, hmore, rfl⟩ := Option.map_eq_some_iff.mp h
    exact .itself kept.1 (ih hmore)
  | case6 => cases h

theorem Spells.expand? {inside text : Text} (spells : Spells inside text)
    (plain : ∀ c ∈ text, isPlain c = true) : expand? inside = some text := by
  induction spells with
  | nil => rfl
  | @itself c inside text unescaped rest ih =>
    have hrest := ih fun d hd => plain d (List.mem_cons_of_mem c hd)
    rw [expand?_cons_of_ne unescaped, if_pos (plain c List.mem_cons_self), hrest]
    rfl
  | @short c x inside text stands rest ih =>
    have hrest := ih fun d hd => plain d (List.mem_cons_of_mem x hd)
    rw [expand?_short stands, hrest]
    rfl
  | @code digits inside text x four stands rest ih =>
    have hrest := ih fun d hd => plain d (List.mem_cons_of_mem x hd)
    rw [expand?_code four stands, hrest]
    rfl
  | @longCode digits inside text x eight stands rest ih =>
    have hrest := ih fun d hd => plain d (List.mem_cons_of_mem x hd)
    rw [expand?_longCode eight stands, hrest]
    rfl

theorem expand?_append {front : Text} (unescaped : ∀ c ∈ front, c ≠ '\\') (rest : Text) :
    expand? (front ++ rest) =
      if front.all isPlain then (expand? rest).map (front ++ ·) else none := by
  induction front with
  | nil => simp
  | cons c front ih =>
    have hc := unescaped c List.mem_cons_self
    have hfront := ih fun d hd => unescaped d (List.mem_cons_of_mem c hd)
    rw [List.cons_append, expand?_cons_of_ne hc, hfront, List.all_cons]
    cases isPlain c with
    | false => rfl
    | true =>
      cases front.all isPlain with
      | false => rfl
      | true => simp [Function.comp_def]

/-- The two readings agree where one of them gives ASCII. -/
theorem decode_eq_ok_iff {inside text : Text} (ascii : ∀ c ∈ text, c.utf8Size = 1) :
    decode inside = .ok text ↔ expand? inside = some text := by
  have hsplit := List.takeWhile_append_dropWhile (p := (· ≠ '\\')) (l := inside)
  have unescaped : ∀ c ∈ inside.takeWhile (· ≠ '\\'), c ≠ '\\' := fun c hc => by
    simpa using List.all_eq_true.mp List.all_takeWhile c hc
  unfold decode
  simp only
  generalize inside.takeWhile (· ≠ '\\') = before at hsplit unescaped ⊢
  generalize inside.dropWhile (· ≠ '\\') = escapes at hsplit ⊢
  rw [← hsplit, expand?_append unescaped]
  cases plain : before.all isPlain with
  | false =>
    have control : before.any (!isPlain ·) = true := by
      rw [List.any_eq_not_all_not]
      simp [plain]
    simp [control]
  | true =>
    have noControl : before.any (!isPlain ·) = false := by
      rw [List.any_eq_not_all_not]
      simp [plain]
    simp only [noControl, Bool.false_eq_true, if_false, if_true]
    by_cases hnone : escapes = []
    · simp [hnone, expand?]
    rw [if_neg hnone]
    -- What was kept in front of the escapes makes up an ASCII text only if it is all of `before`.
    have hkept := fun rest => @Text.takeBytes?_length_append_iff before text ascii rest
    cases htaken : Text.takeBytes? before.length before with
    | none =>
      simp only [htaken] at hkept
      cases expand? escapes with
      | none => simp
      | some rest => simpa using hkept rest
    | some kept =>
      simp only [htaken] at hkept
      cases expand? escapes with
      | none => simp
      | some rest => simpa using hkept rest

theorem isSome_hexValue?_of_foldlM {digits : Text} {n m : Nat}
    (h : digits.foldlM (fun n c => (hexValue? c).map (16 * n + ·)) n = some m) :
    ∀ c ∈ digits, (hexValue? c).isSome = true := by
  induction digits generalizing n with
  | nil => simp
  | cons d rest ih =>
    rw [List.foldlM_cons] at h
    obtain ⟨k, hk, hrest⟩ := Option.bind_eq_some_iff.mp h
    obtain ⟨value, hvalue, -⟩ := Option.map_eq_some_iff.mp hk
    intro c hc
    rcases List.mem_cons.mp hc with rfl | hmem
    · rw [hvalue]
      rfl
    · exact ih hrest c hmem

/-- A hexadecimal digit neither ends a quoted text nor starts an escape. -/
theorem ne_of_mem_hexDigits {digits : Text} {x : Char} (stands : hexChar? digits = some x) :
    ∀ c ∈ digits, c ≠ '"' ∧ c ≠ '\\' := by
  obtain ⟨code, hcode, -⟩ := Option.bind_eq_some_iff.mp stands
  intro c hc
  have hvalue := isSome_hexValue?_of_foldlM hcode c hc
  constructor
  · rintro rfl
    cases hvalue
  · rintro rfl
    cases hvalue

theorem untilQuote?_append {front : Text} (plain : ∀ c ∈ front, c ≠ '"' ∧ c ≠ '\\')
    (rest : Text) :
    untilQuote? (front ++ rest) = (untilQuote? rest).map fun r => (front ++ r.1, r.2) := by
  induction front with
  | nil => simp
  | cons c front ih =>
    obtain ⟨noQuote, unescaped⟩ := plain c List.mem_cons_self
    have hfront := ih fun d hd => plain d (List.mem_cons_of_mem c hd)
    rw [List.cons_append, untilQuote?, hfront, Option.map_map]
    · rfl
    · exact noQuote
    · exact fun d more hc => absurd hc unescaped

/-- The quote behind a text that spells no quote closes it: an escaped quote would be spelled. -/
theorem untilQuote?_of_spells {inside text : Text} (spells : Spells inside text)
    (unquoted : '"' ∉ text) (behind : Text) :
    untilQuote? (inside ++ '"' :: behind) = some (inside, behind) := by
  induction spells with
  | nil => rfl
  | @itself c inside text unescaped rest ih =>
    have hrest := ih fun h => unquoted (List.mem_cons_of_mem c h)
    have noQuote : c ≠ '"' := by
      rintro rfl
      exact unquoted List.mem_cons_self
    have hc := @untilQuote?_append [c] (by simp [noQuote, unescaped]) (inside ++ '"' :: behind)
    rw [hrest] at hc
    exact hc
  | @short c x inside text stands rest ih =>
    have hrest := ih fun h => unquoted (List.mem_cons_of_mem x h)
    rw [List.cons_append, List.cons_append, untilQuote?, hrest]
    rfl
  | @code digits inside text x four stands rest ih =>
    have hrest := ih fun h => unquoted (List.mem_cons_of_mem x h)
    rw [List.append_assoc, List.cons_append, List.cons_append, untilQuote?,
      untilQuote?_append (ne_of_mem_hexDigits stands), hrest]
    rfl
  | @longCode digits inside text x eight stands rest ih =>
    have hrest := ih fun h => unquoted (List.mem_cons_of_mem x h)
    rw [List.append_assoc, List.cons_append, List.cons_append, untilQuote?,
      untilQuote?_append (ne_of_mem_hexDigits stands), hrest]
    rfl

end AttributePrinter.Setting.Escape
