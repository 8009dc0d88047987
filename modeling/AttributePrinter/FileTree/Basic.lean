import AttributePrinter.SystemError.Basic
import AttributePrinter.Text.Basic

/-!
# File trees

Files, directories and symbolic links, each at a location: the names that lead to it from the
root, with no links and no dots among them. Nothing is at two locations. The working directory
is a child of the root without a name, so that paths lead out of it but not into it again.

Attributes belong to locations and are kept apart from the nodes: setting one changes no path. How
the system serves names outside the `user` namespace is left open.
-/

namespace AttributePrinter

abbrev Location := List Bytes

inductive Node where
  | file
  | directory
  | link (target : Bytes)
  deriving DecidableEq, Repr

/-- What a call on an attribute is for. -/
inductive Access where
  | reading
  | changing
  deriving DecidableEq, Repr

/-- Under a name outside the `user` namespace, `outside?` is the code that a call fails with at a
location, be it a link's. Without such a code the attribute is kept like any other. A tree serves no
such name unless it says so. -/
structure FileTree where
  nodes : List (Location × Node) := []
  attributes : List ((Location × Bytes) × Bytes) := []
  outside? : Access → Location → Bytes → Option Int := fun _ _ _ => SystemError.notSupported.code?

namespace FileTree

def workingDirectory : Location := [[]]

def node? (tree : FileTree) (location : Location) : Option Node :=
  if location = [] ∨ location = workingDirectory then some .directory
  else (tree.nodes.find? (·.1 = location)).map (·.2)

def attribute? (tree : FileTree) (location : Location) (name : Bytes) : Option Bytes :=
  (tree.attributes.find? (·.1 = (location, name))).map (·.2)

def putNode (tree : FileTree) (location : Location) (node : Node) : FileTree :=
  { tree with nodes := (location, node) :: tree.nodes }

def dropAttribute (tree : FileTree) (location : Location) (name : Bytes) : FileTree :=
  { tree with attributes := tree.attributes.filter (·.1 ≠ (location, name)) }

def putAttribute (tree : FileTree) (location : Location) (name value : Bytes) : FileTree :=
  { tree with
    attributes := ((location, name), value) :: (tree.dropAttribute location name).attributes }

theorem attribute?_dropAttribute (tree : FileTree) (location other : Location)
    (name otherName : Bytes) :
    (tree.dropAttribute location name).attribute? other otherName =
      if (other, otherName) = (location, name) then none else tree.attribute? other otherName := by
  unfold attribute? dropAttribute
  rw [List.find?_filter]
  split
  · rename_i h
    rw [List.find?_eq_none.mpr]
    · rfl
    · intro x _ hx
      simp_all
  · rename_i h
    congr 2
    funext x
    by_cases hx : x.1 = (other, otherName) <;> simp [hx, h]

theorem attribute?_putAttribute (tree : FileTree) (location other : Location)
    (name otherName value : Bytes) :
    (tree.putAttribute location name value).attribute? other otherName =
      if (other, otherName) = (location, name) then some value
      else tree.attribute? other otherName := by
  by_cases h : (other, otherName) = (location, name)
  · simp [attribute?, putAttribute, h]
  · rw [if_neg h]
    have hdrop := attribute?_dropAttribute tree location other name otherName
    rw [if_neg h] at hdrop
    rw [← hdrop]
    simp [attribute?, putAttribute, Ne.symm h]

end FileTree

end AttributePrinter
