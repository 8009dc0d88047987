import AttributePrinter.Report
import Mathlib.Data.List.DropRight

/-!
# What a report cuts

A message that says its cause again, behind a colon and a space, loses that and the colons before
it, whatever else it says. A message that is shorter than its cause loses nothing to it. So the
report of a short head with one or two causes is known line by line.
-/

namespace AttributePrinter.Report

section Endings

variable {ending text : Text}

theorem before?_eq_some_iff {rest : Text} :
    before? ending text = some rest ↔ text = rest ++ ending := by
  constructor
  · intro h
    obtain ⟨turned, hbehind, rfl⟩ := Option.map_eq_some_iff.mp h
    calc text = text.reverse.reverse := text.reverse_reverse.symm
      _ = (ending.reverse ++ turned).reverse := by rw [Text.eq_append_of_behind? hbehind]
      _ = turned.reverse ++ ending := by rw [List.reverse_append, List.reverse_reverse]
  · rintro rfl
    rw [before?, List.reverse_append, Text.behind?_append, Option.map_some, List.reverse_reverse]

theorem before?_eq_none (other : ¬ ending <:+ text) : before? ending text = none := by
  rw [Option.eq_none_iff_forall_ne_some]
  intro rest hrest
  exact other ⟨rest, (before?_eq_some_iff.mp hrest).symm⟩

theorem dropEndings_of_not_suffix (other : ¬ ending <:+ text) (count : Nat) :
    dropEndings ending count text = text := by
  have nonempty : ending ≠ [] := by
    rintro rfl
    exact other List.nil_suffix
  cases count with
  | zero => rfl
  | succ count => rw [dropEndings, if_neg nonempty, before?_eq_none other]

theorem dropEndings_append (nonempty : ending ≠ []) (other : ¬ ending <:+ text) (count : Nat) :
    dropEndings ending (count + 1) (text ++ ending) = text := by
  rw [dropEndings, if_neg nonempty, before?_eq_some_iff.mpr rfl]
  exact dropEndings_of_not_suffix other count

end Endings

theorem dropColons_eq (text : Text) : dropColons text = text.rdropWhile (· = ':') := rfl

theorem length_dropColons_le (text : Text) : (dropColons text).length ≤ text.length :=
  (List.rdropWhile_prefix (fun c => decide (c = ':')) text).length_le

/-- The colons before the end of the front are none that end the text. -/
theorem dropColons_append {front : Text} (kept : dropColons front = front) (text : Text) :
    dropColons (front ++ text) = front ++ dropColons text := by
  unfold dropColons at kept ⊢
  rw [List.reverse_append, List.dropWhile_append]
  split
  · rename_i colons
    rw [kept, List.isEmpty_iff.mp colons, List.reverse_nil, List.append_nil]
  · rw [List.reverse_append, List.reverse_reverse]

theorem dropColons_of_last {text : Text} {c : Char} (last : text.getLast? = some c)
    (other : c ≠ ':') : dropColons text = text := by
  rw [dropColons_eq, List.rdropWhile_eq_self_iff]
  intro nonempty colon
  rw [List.getLast?_eq_some_getLast nonempty] at last
  exact other (Option.some.inj last ▸ of_decide_eq_true colon)

/-- A text without blanks or colons at its end. -/
def Plain (text : Text) : Prop :=
  dropColons (Text.trimEnd text) = text

instance (text : Text) : Decidable (Plain text) :=
  inferInstanceAs (Decidable (dropColons (Text.trimEnd text) = text))

section Messages

variable {head lead root message : Text}

theorem withoutCause_of_shorter (plain : Plain message) (shorter : message.length < root.length) :
    withoutCause root message = message := by
  have other : ¬ root <:+ message := fun h => Nat.not_lt.mpr h.length_le shorter
  rw [withoutCause, dropEndings_of_not_suffix other, plain]

/-- The blank between the colon and the cause goes first, and then all the colons; blanks that stand
before those stay. -/
theorem dropColons_trimEnd_lead (lead : Text) :
    dropColons (Text.trimEnd (lead ++ ": ".toList)) = dropColons lead := by
  have htrim : Text.trimEnd (lead ++ ": ".toList) = lead ++ [':'] := by
    have hspace : Text.isBlank ' ' = true := by decide
    have hcolon : Text.isBlank ':' = false := by decide
    simp [Text.trimEnd, hspace, hcolon]
  rw [htrim, dropColons_eq, dropColons_eq, List.rdropWhile_concat_pos _ _ _ (by decide)]

theorem withoutCause_of_lead {c : Char} (last : root.getLast? = some c) (solid : c ≠ ' ') :
    withoutCause root (lead ++ ": ".toList ++ root) = dropColons lead := by
  have nonempty : root ≠ [] := by
    rintro rfl
    cases last
  -- What the first removal leaves ends in a space, so there is no second.
  have other : ¬ root <:+ lead ++ ": ".toList := by
    rintro ⟨front, hfront⟩
    have hlast := congrArg List.getLast? hfront
    rw [List.getLast?_append, last, List.getLast?_append] at hlast
    exact solid (Option.some.inj hlast)
  obtain ⟨count, hcount⟩ : ∃ count, (lead ++ ": ".toList ++ root).length = count + 1 :=
    Nat.exists_eq_succ_of_ne_zero (by simp)
  rw [withoutCause, hcount, dropEndings_append nonempty other, dropColons_trimEnd_lead]

/-- What stands before the colons stays, even if it is the cause once more. -/
example : withoutCause "gone".toList "is gone :: gone".toList = "is gone ".toList := by decide

theorem cleaned_of_one (plain : Plain head) (shorter : head.length < root.length) :
    cleaned [head, root] = [(head, false), (root, false)] := by
  simp [cleaned, withoutCause_of_shorter plain shorter]

theorem cleaned_of_two (plain : Plain head) (shorter : head.length < lead.length) {c : Char}
    (last : root.getLast? = some c) (solid : c ≠ ' ') :
    cleaned [head, lead ++ ": ".toList ++ root, root] =
      [(head, false), (dropColons lead, true), (root, false)] := by
  have hhead : withoutCause (lead ++ ": ".toList ++ root) head = head := by
    apply withoutCause_of_shorter plain
    simp only [List.length_append]
    omega
  have cut : ((dropColons lead).length != (lead ++ ": ".toList ++ root).length) = true := by
    have hle := length_dropColons_le lead
    have htwo : (": ".toList).length = 2 := by decide
    simp only [List.length_append, bne_iff_ne]
    omega
  simp only [cleaned, hhead, withoutCause_of_lead last solid, cut, bne_self_eq_false]

theorem render_of_one (raw : Bool) (plain : Plain head) (headLeft : head ≠ [])
    (shorter : head.length < root.length) : render raw head [root] = lines head [root] := by
  have rootLeft : root ≠ [] := List.ne_nil_of_length_pos (Nat.zero_lt_of_lt shorter)
  cases raw with
  | true => rfl
  | false =>
    simp only [render, cleaned_of_one plain shorter]
    simp [headLeft, rootLeft, marked, noteOn]

/-- The message above the root is marked if something of it is left. -/
theorem render_of_two (plain : Plain head) (headLeft : head ≠ []) (left : dropColons lead ≠ [])
    (shorter : head.length < lead.length) {c : Char} (last : root.getLast? = some c)
    (solid : c ≠ ' ') :
    render false head [lead ++ ": ".toList ++ root, root] =
      lines head [dropColons lead ++ " *".toList, root] ++ note := by
  have rootLeft : root ≠ [] := by
    rintro rfl
    cases last
  simp only [render, cleaned_of_two plain shorter last solid]
  simp [headLeft, left, rootLeft, marked, noteOn]

end Messages

section Lines

variable (head outer root : Text)

theorem numbered_zero : numbered 0 root = "  1: ".toList ++ root ++ ['\n'] := rfl

theorem numbered_one : numbered 1 root = "  2: ".toList ++ root ++ ['\n'] := rfl

theorem lines_of_one :
    lines head [root] =
      head ++ "\n\nCaused by this error:\n  1: ".toList ++ root ++ ['\n'] := by
  have heading : "\n\nCaused by this error:\n  1: ".toList =
      ['\n'] ++ "\nCaused by this error:\n".toList ++ "  1: ".toList := by decide
  change head ++ ['\n'] ++ "\nCaused by this error:\n".toList ++ (numbered 0 root ++ []) = _
  rw [numbered_zero, heading]
  simp only [List.append_assoc, List.append_nil]

theorem lines_of_two :
    lines head [outer, root] =
      head ++ "\n\nCaused by these errors (recent errors listed first):\n  1: ".toList ++ outer ++
        "\n  2: ".toList ++ root ++ ['\n'] := by
  have heading : "\n\nCaused by these errors (recent errors listed first):\n  1: ".toList =
      ['\n'] ++ "\nCaused by these errors (recent errors listed first):\n".toList ++
        "  1: ".toList := by decide
  have second : "\n  2: ".toList = ['\n'] ++ "  2: ".toList := by decide
  change head ++ ['\n'] ++ "\nCaused by these errors (recent errors listed first):\n".toList ++
    (numbered 0 outer ++ (numbered 1 root ++ [])) = _
  rw [numbered_zero, numbered_one, heading, second]
  simp only [List.append_assoc, List.append_nil]

end Lines

end AttributePrinter.Report
