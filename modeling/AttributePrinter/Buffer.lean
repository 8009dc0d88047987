import AttributePrinter.Text.Basic

/-!
# Buffers

A buffer holds a fixed number of bytes. Bytes are stored from an offset on and cut off at the
end of the buffer; they are read back from the start, as many as asked for but never more than
there are. What lies behind the bytes asked for is never shown.
-/

namespace AttributePrinter

def defaultCapacity : Nat := 4096

/-- The largest value that one attribute can have. -/
def greatestCapacity : Nat := 65536

structure Buffer (capacity : Nat) where
  bytes : Bytes
  length_eq : bytes.length = capacity

namespace Buffer

def zeroed (capacity : Nat) : Buffer capacity :=
  ⟨List.replicate capacity 0, List.length_replicate⟩

theorem getElem?_zeroed {capacity i : Nat} (h : i < capacity) :
    (zeroed capacity).bytes[i]? = some 0 := by
  simp [zeroed, h]

/-- The number of the bytes of `data` that fit behind `offset`. -/
def room (capacity offset : Nat) (data : Bytes) : Nat :=
  min data.length (capacity - min offset capacity)

/-- An offset behind the end counts as the end. -/
def store {capacity : Nat} (b : Buffer capacity) (offset : Nat) (data : Bytes) :
    Buffer capacity where
  bytes :=
    b.bytes.take offset ++ data.take (room capacity offset data) ++
      b.bytes.drop (min offset capacity + room capacity offset data)
  length_eq := by
    have h := b.length_eq
    simp only [List.length_append, List.length_take, List.length_drop, room]
    omega

def filled {capacity : Nat} (b : Buffer capacity) (length : Nat) : Bytes :=
  b.bytes.take length

@[simp]
theorem length_filled {capacity : Nat} (b : Buffer capacity) (length : Nat) :
    (b.filled length).length = min length capacity := by
  simp [filled, b.length_eq]

theorem filled_ne_nil_iff {capacity : Nat} (b : Buffer capacity) (length : Nat) :
    b.filled length ≠ [] ↔ 0 < min length capacity := by
  rw [← List.length_pos_iff, length_filled]

/-- Asking for more than there is comes to asking for all of it. -/
theorem filled_eq_take_min {capacity : Nat} (b : Buffer capacity) (length : Nat) :
    b.filled length = b.bytes.take (min length capacity) := by
  have h := List.take_eq_take_min (l := b.bytes) (i := length)
  rwa [b.length_eq] at h

theorem store_start {capacity : Nat} (b : Buffer capacity) {data : Bytes}
    (h : data.length ≤ capacity) :
    (b.store 0 data).bytes = data ++ b.bytes.drop data.length := by
  simp [store, room, Nat.min_eq_left h]

/-- Data that does not fit fills the buffer. -/
theorem bytes_store_start {capacity : Nat} (b : Buffer capacity) (data : Bytes) :
    (b.store 0 data).bytes = data.take capacity ++ b.bytes.drop data.length := by
  rcases Nat.le_total data.length capacity with hfits | hfills
  · rw [b.store_start hfits, List.take_of_length_le hfits]
  · have hlength := b.length_eq
    simp [store, room, Nat.min_eq_right hfills, hlength]

/-- Data stored at the start is read back with as much behind it as is asked for. -/
theorem filled_store_eq_take {capacity : Nat} (b : Buffer capacity) (data : Bytes) (n : Nat) :
    (b.store 0 data).filled n = (data ++ b.bytes.drop data.length).take (min n capacity) := by
  rw [filled_eq_take_min, b.bytes_store_start]
  rcases Nat.le_total data.length capacity with hfits | hfills
  · rw [List.take_of_length_le hfits]
  · have hnothing : b.bytes.drop data.length = [] := by
      rw [List.drop_eq_nil_iff, b.length_eq]
      exact hfills
    rw [hnothing, List.append_nil, List.append_nil, List.take_take, Nat.min_assoc, Nat.min_self]

/-- Behind the bytes stored at the start there is what was there before. -/
theorem getElem?_store_start {capacity i : Nat} (b : Buffer capacity) (data : Bytes)
    (h : i < capacity) : (b.store 0 data).bytes[i]? = data[i]?.or b.bytes[i]? := by
  rw [b.bytes_store_start, List.getElem?_append, List.length_take]
  by_cases hi : i < data.length
  · have htaken : i < min capacity data.length := by omega
    rw [if_pos htaken, List.getElem?_take_of_lt h]
    simp [hi]
  · have hbehind : ¬ i < min capacity data.length := by omega
    have hplace : data.length + (i - min capacity data.length) = i := by omega
    rw [if_neg hbehind, List.getElem?_drop, hplace]
    simp [Nat.not_lt.mp hi]

/-- What is read back depends on no byte behind it. -/
theorem filled_congr {capacity n : Nat} {b other : Buffer capacity}
    (h : ∀ i < min n capacity, b.bytes[i]? = other.bytes[i]?) : b.filled n = other.filled n := by
  rw [filled_eq_take_min, filled_eq_take_min]
  apply List.ext_getElem?
  intro i
  rw [List.getElem?_take, List.getElem?_take]
  split
  · rename_i hi
    exact h i hi
  · rfl

/-- Bytes that fit are read back as they were stored. -/
theorem filled_store_start {capacity : Nat} (b : Buffer capacity) {data : Bytes}
    (h : data.length ≤ capacity) : (b.store 0 data).filled data.length = data := by
  rw [filled, b.store_start h, List.take_left]

end Buffer

end AttributePrinter
