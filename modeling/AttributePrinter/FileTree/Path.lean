import AttributePrinter.FileTree.Basic

/-!
# Paths

A path is followed name by name from the root or from the working directory. A link on the way
is replaced by its target, at most forty times on one path. The last name is special: if it is a
link, the caller says whether it is followed. A slash at the end stands for a last dot, so that
what is before it must be a directory and is no longer last.
-/

namespace AttributePrinter.FileTree

def slash : UInt8 := 47

def dot : Bytes := [46]

def dotDot : Bytes := [46, 46]

def longestName : Nat := 255

def longestPath : Nat := 4095

def mostLinks : Nat := 40

/-- The names of a path, with a dot for a slash at its end. -/
def components (path : Bytes) : List Bytes :=
  let names := (Text.pieces slash path).filter (· ≠ [])
  if path.getLast? = some slash then names ++ [dot] else names

/-- A path that starts with a slash starts from the root. -/
def startOf (directory : Location) (path : Bytes) : Location :=
  if path.head? = some slash then [] else directory

/-- How far the names lead without following a link. -/
inductive Leg where
  | arrived (location : Location)
  | stopped (directory : Location) (target : Bytes) (rest : List Bytes)
  | failed (error : SystemError)
  deriving DecidableEq, Repr

/-- Goes from `here` name by name as far as the next link that has to be followed. -/
def advance (tree : FileTree) (follow : Bool) (here : Location) : List Bytes → Leg
  | [] => .arrived here
  | name :: rest =>
    match tree.node? here with
    | none => .failed .noEntry
    | some .file | some (.link _) => .failed .notDirectory
    | some .directory =>
      if name = dot then tree.advance follow here rest
      else if name = dotDot then tree.advance follow here.dropLast rest
      else if longestName < name.length then .failed .nameTooLong
      else
        match tree.node? (here ++ [name]) with
        | none => .failed .noEntry
        | some (.link target) =>
          if rest = [] ∧ follow = false then .arrived (here ++ [name])
          else .stopped here target rest
        | some _ => tree.advance follow (here ++ [name]) rest

/-- The location that the names lead to from `here`, with at most `links` links on the way. -/
def walk (tree : FileTree) (follow : Bool) :
    Nat → Location → List Bytes → Except SystemError Location
  | links, here, names =>
    match tree.advance follow here names, links with
    | .arrived location, _ => .ok location
    | .failed error, _ => .error error
    | .stopped .., 0 => .error .tooManyLinks
    | .stopped directory target rest, links + 1 =>
      tree.walk follow links (startOf directory target) (components target ++ rest)

def resolve (tree : FileTree) (follow : Bool) (path : Bytes) : Except SystemError Location :=
  if path = [] then .error .noEntry
  else if longestPath < path.length then .error .nameTooLong
  else walk tree follow mostLinks (startOf workingDirectory path) (components path)

section Congruence

variable {tree other : FileTree} (same : tree.nodes = other.nodes) (follow : Bool)
include same

theorem node?_congr (location : Location) : tree.node? location = other.node? location := by
  rw [node?, node?, same]

theorem advance_congr (here : Location) (names : List Bytes) :
    tree.advance follow here names = other.advance follow here names := by
  induction names generalizing here with
  | nil => rfl
  | cons name rest ih => simp only [advance, node?_congr same, ih]

theorem walk_congr (links : Nat) (here : Location) (names : List Bytes) :
    tree.walk follow links here names = other.walk follow links here names := by
  induction links generalizing here names with
  | zero =>
    unfold walk
    rw [advance_congr same]
    cases other.advance follow here names <;> rfl
  | succ links ih =>
    unfold walk
    rw [advance_congr same]
    cases other.advance follow here names with
    | arrived location => rfl
    | failed error => rfl
    | stopped directory target rest => exact ih _ _

/-- Where paths lead depends on the nodes only. -/
theorem resolve_congr (path : Bytes) : tree.resolve follow path = other.resolve follow path := by
  rw [resolve, resolve, walk_congr same]

end Congruence

end AttributePrinter.FileTree
