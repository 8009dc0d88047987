import AttributePrinter.Config.Load
import AttributePrinter.FileTree.Attribute

/-!
# Where a path and a name lead

A call on a path and a name gets as far as a location if the path leads there and nothing is wrong
with the name, there or anywhere. Nothing is wrong with a name of the `user` namespace where there
is no link, so a file that is asked for an attribute gives what is kept at its location.
-/

namespace AttributePrinter.FileTree

/-- Where the path leads, if a link at its end is not followed. -/
def Reaches (tree : FileTree) (path : Bytes) (location : Location) : Prop :=
  0 ∉ path ∧ tree.resolve false path = .ok location

instance (tree : FileTree) (path : Bytes) (location : Location) :
    Decidable (tree.Reaches path location) :=
  inferInstanceAs (Decidable (0 ∉ path ∧ tree.resolve false path = .ok location))

/-- A file or a directory is there, and not a link. -/
def Holds (tree : FileTree) (location : Location) : Prop :=
  tree.node? location = some .file ∨ tree.node? location = some .directory

instance (tree : FileTree) (location : Location) : Decidable (tree.Holds location) :=
  inferInstanceAs
    (Decidable (tree.node? location = some .file ∨ tree.node? location = some .directory))

/-- A name that a file or a directory can have an attribute under. -/
def IsUserName (name : Bytes) : Prop :=
  userNamespace.isPrefixOf name = true ∧ name ≠ userNamespace ∧ name.length ≤ longestName ∧
    0 ∉ name

instance (name : Bytes) : Decidable (IsUserName name) :=
  inferInstanceAs (Decidable (userNamespace.isPrefixOf name = true ∧ name ≠ userNamespace ∧
    name.length ≤ longestName ∧ 0 ∉ name))

variable {tree : FileTree} {path name : Bytes} {location : Location}

theorem Reaches.unique {other : Location} (h : tree.Reaches path location)
    (h' : tree.Reaches path other) : location = other :=
  Except.ok.inj (h.2.symm.trans h'.2)

theorem Reaches.congr {other : FileTree} (same : tree.nodes = other.nodes) :
    tree.Reaches path location ↔ other.Reaches path location := by
  rw [Reaches, Reaches, resolve_congr same]

theorem argumentFault?_eq_none_iff :
    argumentFault? path name = none ↔
      0 ∉ path ∧ 0 ∉ name ∧ name ≠ [] ∧ name.length ≤ longestName := by
  unfold argumentFault?
  by_cases hzero : 0 ∈ path ∨ 0 ∈ name
  · rw [if_pos hzero]
    refine iff_of_false (by simp) ?_
    rintro ⟨hpath, hname, -⟩
    exact hzero.elim hpath hname
  · rw [if_neg hzero]
    obtain ⟨hpath, hname⟩ := not_or.mp hzero
    by_cases hlength : name = [] ∨ longestName < name.length
    · rw [if_pos hlength]
      refine iff_of_false (by simp) ?_
      rintro ⟨-, -, nonempty, short⟩
      exact hlength.elim nonempty (Nat.not_lt.mpr short)
    · rw [if_neg hlength]
      obtain ⟨nonempty, short⟩ := not_or.mp hlength
      exact iff_of_true rfl ⟨hpath, hname, nonempty, Nat.not_lt.mp short⟩

theorem place_eq_ok_iff {access : Access} :
    tree.place access path name = .ok location ↔
      argumentFault? path name = none ∧ tree.Reaches path location ∧
        tree.nameFault? access location name = none := by
  unfold place
  constructor
  · intro h
    split at h
    · cases h
    · rename_i hargument
      split at h
      · cases h
      · rename_i found hresolve
        split at h
        · cases h
        · rename_i hname
          obtain rfl : found = location := Except.ok.inj h
          exact ⟨hargument, ⟨(argumentFault?_eq_none_iff.mp hargument).1, hresolve⟩, hname⟩
  · rintro ⟨hargument, ⟨-, hresolve⟩, hname⟩
    simp only [hargument, hresolve, hname]

theorem IsUserName.argumentFault? (isUserName : IsUserName name) (clean : 0 ∉ path) :
    FileTree.argumentFault? path name = none := by
  obtain ⟨inSpace, -, short, cleanName⟩ := isUserName
  refine argumentFault?_eq_none_iff.mpr ⟨clean, cleanName, ?_, short⟩
  rintro rfl
  cases inSpace

theorem Holds.not_link (h : tree.Holds location) (target : Bytes) :
    tree.node? location ≠ some (.link target) := by
  rcases h with hfile | hdirectory
  · simp [hfile]
  · simp [hdirectory]

theorem Holds.nameFault? (holds : tree.Holds location) (isUserName : IsUserName name)
    (access : Access) : tree.nameFault? access location name = none := by
  rw [FileTree.nameFault?, if_pos isUserName.1]
  split
  · rename_i target hlink
    exact absurd hlink (holds.not_link target)
  · rw [if_neg isUserName.2.1]

/-- A file is asked for what is kept at its location. -/
theorem lookup_eq (reaches : tree.Reaches path location) (holds : tree.Holds location)
    (isUserName : IsUserName name) :
    tree.lookup path name = .ok (tree.attribute? location name) := by
  have hplace : tree.place .reading path name = .ok location :=
    place_eq_ok_iff.mpr
      ⟨isUserName.argumentFault? reaches.1, reaches, holds.nameFault? isUserName .reading⟩
  rw [lookup, hplace]

end AttributePrinter.FileTree
