import AttributePrinter.Decimal.Style
import AttributePrinter.Text.Quoted

/-!
# Setting values

What the text of a variable can stand for: truth values, numbers, texts, lists and dictionaries.
A dictionary is kept in the order of its keys, each key once. A number carries how it was
written: without a sign it is a natural number, with a minus sign an integer, with a point a
binary fraction.

Merging lays one value over another: two dictionaries are merged key by key, and in every other
case the value on top is all that is left.
-/

namespace AttributePrinter.Setting

inductive Value where
  | bool (b : Bool)
  | natural (n : Nat)
  | integer (i : Int)
  | fraction (x : Binary64)
  | char (c : Char)
  | text (t : Text)
  | list (items : List Value)
  | dict (entries : List (Text × Value))
  deriving Repr

abbrev Entries := List (Text × Value)

namespace Entries

def find? (entries : Entries) (key : Text) : Option Value :=
  (List.find? (fun e => e.1 = key) entries).map (·.2)

/-- Puts the key in its place, or replaces what it had. -/
def insert (key : Text) (value : Value) : Entries → Entries
  | [] => [(key, value)]
  | (k, v) :: rest =>
    if key < k then (key, value) :: (k, v) :: rest
    else if key = k then (key, value) :: rest
    else (k, v) :: insert key value rest

def ofList (entries : List (Text × Value)) : Entries :=
  entries.foldl (fun made e => insert e.1 e.2 made) []

@[simp]
theorem find?_nil (key : Text) : find? [] key = none := rfl

theorem find?_cons (k key : Text) (v : Value) (rest : Entries) :
    find? ((k, v) :: rest) key = if k = key then some v else find? rest key := by
  by_cases h : k = key <;> simp [find?, h]

/-- A key put in is found again, and every other key is found as before. -/
theorem find?_insert (key other : Text) (value : Value) (entries : Entries) :
    find? (insert key value entries) other =
      if key = other then some value else find? entries other := by
  induction entries with
  | nil => simp [insert, find?_cons]
  | cons e rest ih =>
    obtain ⟨k, v⟩ := e
    rw [insert]
    split
    · simp [find?_cons]
    · split
      · rename_i hkey
        subst hkey
        by_cases h : key = other <;> simp [find?_cons, h]
      · rename_i hne
        by_cases h : k = other
        · subst h
          simp [find?_cons, hne]
        · simp [find?_cons, h, ih]

section Order

variable {key k : Text}

theorem insert_of_lt (h : key < k) (value v : Value) (rest : Entries) :
    insert key value ((k, v) :: rest) = (key, value) :: (k, v) :: rest := by
  rw [insert, if_pos h]

theorem insert_of_eq (key : Text) (value v : Value) (rest : Entries) :
    insert key value ((key, v) :: rest) = (key, value) :: rest := by
  rw [insert, if_neg (List.lt_irrefl key), if_pos rfl]

theorem insert_of_gt (h : k < key) (value v : Value) (rest : Entries) :
    insert key value ((k, v) :: rest) = (k, v) :: insert key value rest := by
  rw [insert, if_neg (Text.not_lt_of_lt h), if_neg (Text.ne_of_lt h).symm]

end Order

/-- The second value of a key takes the place of the first. -/
theorem insert_insert (key : Text) (first second : Value) (entries : Entries) :
    insert key second (insert key first entries) = insert key second entries := by
  induction entries with
  | nil => exact insert_of_eq key second first []
  | cons e rest ih =>
    obtain ⟨k, v⟩ := e
    by_cases same : key = k
    · subst same
      rw [insert_of_eq, insert_of_eq, insert_of_eq]
    · rcases Text.lt_or_lt_of_ne same with hlt | hgt
      · rw [insert_of_lt hlt, insert_of_lt hlt, insert_of_eq]
      · rw [insert_of_gt hgt, insert_of_gt hgt, insert_of_gt hgt, ih]

theorem insert_comm_of_lt {key other : Text} (h : key < other) (value otherValue : Value)
    (entries : Entries) :
    insert key value (insert other otherValue entries) =
      insert other otherValue (insert key value entries) := by
  induction entries with
  | nil =>
    have hfirst : insert key value [(other, otherValue)] = [(key, value), (other, otherValue)] :=
      insert_of_lt h value otherValue []
    exact hfirst.trans (insert_of_gt h otherValue value []).symm
  | cons e rest ih =>
    obtain ⟨k, v⟩ := e
    by_cases same : other = k
    · subst same
      rw [insert_of_eq, insert_of_lt h, insert_of_lt h, insert_of_gt h, insert_of_eq]
    rcases Text.lt_or_lt_of_ne same with hlt | hgt
    · have hkey : key < k := List.lt_trans h hlt
      rw [insert_of_lt hlt, insert_of_lt h, insert_of_lt hkey, insert_of_gt h, insert_of_lt hlt]
    rw [insert_of_gt hgt]
    by_cases sameKey : key = k
    · subst sameKey
      rw [insert_of_eq, insert_of_eq, insert_of_gt h]
    rcases Text.lt_or_lt_of_ne sameKey with hlt | hgt'
    · rw [insert_of_lt hlt, insert_of_lt hlt, insert_of_gt h, insert_of_gt hgt]
    · rw [insert_of_gt hgt', insert_of_gt hgt', insert_of_gt hgt, ih]

/-- Two keys are put in their places in any order. -/
theorem insert_comm {key other : Text} (h : key ≠ other) (value otherValue : Value)
    (entries : Entries) :
    insert key value (insert other otherValue entries) =
      insert other otherValue (insert key value entries) := by
  rcases Text.lt_or_lt_of_ne h with hlt | hgt
  · exact insert_comm_of_lt hlt value otherValue entries
  · exact (insert_comm_of_lt hgt otherValue value entries).symm

end Entries

mutual

def Value.merge : Value → Value → Value
  | .dict below, .dict above => .dict (mergeEntries below above)
  | _, value => value

def mergeEntries (below : Entries) : Entries → Entries
  | [] => below
  | (key, value) :: rest =>
    let merged :=
      match Entries.find? below key with
      | none => value
      | some old => Value.merge old value
    mergeEntries (Entries.insert key merged below) rest

end

/-- A value under a path of keys: a dictionary in a dictionary for each key. -/
def nest : List Text → Value → Value
  | [], value => value
  | key :: path, value => .dict [(key, nest path value)]

end AttributePrinter.Setting
