import AttributePrinter.FileTree.Path
import AttributePrinter.Source

/-!
# Attributes of files

Attributes in the `user` namespace belong to files and directories. A link at the end of a path is
not followed and has none of them: reading finds nothing there and writing is not permitted. In
other namespaces it is up to the system which names it serves and where. What is wrong with a call
is looked for in a fixed order: zero bytes, the length of the name, the size of a new value, the
path, and then the name.
-/

namespace AttributePrinter

/-- The answer that a link gives to a call under a name in the `user` namespace. -/
def Access.onLink : Access → SystemError
  | .reading => .noData
  | .changing => .notPermitted

namespace FileTree

/-- What every name in the namespace starts with. -/
def userNamespace : Bytes :=
  asciiBytes "user."

/-- What is wrong with a path and a name before any path is followed. -/
def argumentFault? (path name : Bytes) : Option SystemError :=
  if 0 ∈ path ∨ 0 ∈ name then some .invalidArgument
  else if name = [] ∨ longestName < name.length then some .outOfRange
  else none

/-- What is wrong with a name at a location that was found. -/
def nameFault? (tree : FileTree) (access : Access) (location : Location) (name : Bytes) :
    Option SystemError :=
  if userNamespace.isPrefixOf name then
    match tree.node? location with
    | some (.link _) => some access.onLink
    | _ => if name = userNamespace then some .invalidArgument else none
  else (tree.outside? access location name).map .code

/-- The location of a path, if nothing is wrong with the path and the name. -/
def place (tree : FileTree) (access : Access) (path name : Bytes) :
    Except SystemError Location :=
  match argumentFault? path name with
  | some fault => .error fault
  | none =>
    match tree.resolve false path with
    | .error fault => .error fault
    | .ok location =>
      match tree.nameFault? access location name with
      | some fault => .error fault
      | none => .ok location

/-- The value of an attribute, or nothing if it is not set. That there is no data, which is what
a link answers, means the same. -/
def lookup (tree : FileTree) (path name : Bytes) : Except SystemError (Option Bytes) :=
  match tree.place .reading path name with
  | .error fault => if fault = .noData then .ok none else .error fault
  | .ok location => .ok (tree.attribute? location name)

def setAttribute (tree : FileTree) (path name value : Bytes) : Except SystemError FileTree :=
  if argumentFault? path name = none ∧ greatestCapacity < value.length then .error .listTooLong
  else (tree.place .changing path name).map fun location =>
    tree.putAttribute location name value

def removeAttribute (tree : FileTree) (path name : Bytes) : Except SystemError FileTree :=
  match tree.place .changing path name with
  | .error fault => .error fault
  | .ok location =>
    match tree.attribute? location name with
    | none => .error .noData
    | some _ => .ok (tree.dropAttribute location name)

/-- The attributes of the tree as a source. -/
def source (tree : FileTree) : Source :=
  .ofLookup tree.lookup

/-- A change that somebody tries to make to the attributes. -/
inductive Change where
  | set (path name value : Bytes)
  | remove (path name : Bytes)
  deriving DecidableEq, Repr

def change (tree : FileTree) : Change → Except SystemError FileTree
  | .set path name value => tree.setAttribute path name value
  | .remove path name => tree.removeAttribute path name

/-- A change that fails leaves the tree as it is. -/
def afterChange (tree : FileTree) (c : Change) : FileTree :=
  match tree.change c with
  | .ok changed => changed
  | .error _ => tree

/-- Puts a node at the end of a path whose directory exists. -/
def create (tree : FileTree) (path : Bytes) (node : Node) : Except SystemError FileTree :=
  match (components path).getLast? with
  | none => .error .noEntry
  | some name =>
    (tree.walk true mostLinks (startOf workingDirectory path) (components path).dropLast).map
      fun directory => tree.putNode (directory ++ [name]) node

end FileTree

end AttributePrinter
