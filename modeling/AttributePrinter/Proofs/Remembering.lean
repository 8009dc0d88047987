import AttributePrinter.Proofs.Locations
import AttributePrinter.Proofs.Rationing
import AttributePrinter.Proofs.Retrieving

/-!
# What a file tree remembers

Attributes are set, removed and read one after another, through any of the paths that lead to a
file. No path ever leads anywhere else than at first, so what is remembered goes by location and
name: there is the value that the last change left there, of those that went well, or the value
of the tree at first. Reading, failing, and changes to other files or under other names leave no
trace.
-/

namespace AttributePrinter

namespace FileTree

namespace Change

def path : Change → Bytes
  | .set path _ _ => path
  | .remove path _ => path

def name : Change → Bytes
  | .set _ name _ => name
  | .remove _ name => name

/-- What the change leaves under the name: its value, or nothing. -/
def left : Change → Option Bytes
  | .set _ _ value => some value
  | .remove _ _ => none

end Change

variable {tree : FileTree} {path name : Bytes} {location : Location}

/-- Two trees that differ in their attributes only. -/
structure SameLayout (tree other : FileTree) : Prop where
  nodes_eq : tree.nodes = other.nodes
  outside_eq : tree.outside? = other.outside?

theorem SameLayout.rfl : SameLayout tree tree :=
  ⟨Eq.refl _, Eq.refl _⟩

theorem SameLayout.trans {other last : FileTree} (h : SameLayout tree other)
    (h' : SameLayout other last) : SameLayout tree last :=
  ⟨h.nodes_eq.trans h'.nodes_eq, h.outside_eq.trans h'.outside_eq⟩

/-- A change that goes well leaves what it is to leave, where its path leads, and nothing else. -/
theorem of_change_ok {c : Change} {changed : FileTree} (h : tree.change c = .ok changed) :
    ∃ here, tree.Reaches c.path here ∧ SameLayout changed tree ∧
      ∀ location name, changed.attribute? location name =
        if (location, name) = (here, c.name) then c.left else tree.attribute? location name := by
  cases c with
  | set path name value =>
    rw [change, setAttribute] at h
    split at h
    · cases h
    · cases hplace : tree.place .changing path name with
      | error fault =>
        rw [hplace] at h
        cases h
      | ok here =>
        rw [hplace] at h
        cases h
        refine ⟨here, (place_eq_ok_iff.mp hplace).2.1, ⟨rfl, rfl⟩, fun location other => ?_⟩
        exact attribute?_putAttribute tree here location name other value
  | remove path name =>
    rw [change, removeAttribute] at h
    split at h
    · cases h
    · rename_i here hplace
      split at h
      · cases h
      · cases h
        refine ⟨here, (place_eq_ok_iff.mp hplace).2.1, ⟨rfl, rfl⟩, fun location other => ?_⟩
        exact attribute?_dropAttribute tree here location name other

end FileTree

/-- What somebody does with a tree: change an attribute, query one, or run the program on one. -/
inductive Operation (σ : Type) where
  | change (c : FileTree.Change)
  | query (target : Invocation) (before : Bytes)
  | run (config : Config) (target : Invocation) (writer : Writer σ) (state : σ)

/-- What is told of an operation. -/
inductive Told (σ : Type) where
  | changed (result : Except SystemError Unit)
  | replied (reply : Reply)
  | ran (seen : Seen σ)

namespace FileTree

variable {σ : Type} {tree other : FileTree} {path name : Bytes} {location : Location}

def after (tree : FileTree) : Operation σ → FileTree
  | .change c => tree.afterChange c
  | .query .. => tree
  | .run .. => tree

def tell (tree : FileTree) : Operation σ → Told σ
  | .change c => .changed ((tree.change c).map fun _ => ())
  | .query target before => .replied (tree.source target before)
  | .run config target w s => .ran (runOnce config.capacity tree.source w s target).seen

/-- The tree behind a whole history. -/
def afterAll (tree : FileTree) (history : List (Operation σ)) : FileTree :=
  history.foldl after tree

/-- What is told of each operation of a history in turn. -/
def tellAll (tree : FileTree) : List (Operation σ) → List (Told σ)
  | [] => []
  | operation :: rest => tree.tell operation :: (tree.after operation).tellAll rest

/-- What an operation leaves under the name at the location, if it is a change that goes well
and its path leads there. -/
def effect? (tree : FileTree) (location : Location) (name : Bytes) :
    Operation σ → Option (Option Bytes)
  | .change c =>
    if tree.Reaches c.path location ∧ c.name = name ∧ (tree.change c).isOk = true then
      some c.left
    else none
  | .query .. => none
  | .run .. => none

/-- What the operations of a history leave there, one after another. -/
def effects (tree : FileTree) (location : Location) (name : Bytes) :
    List (Operation σ) → List (Option Bytes)
  | [] => []
  | operation :: rest =>
    (tree.effect? location name operation).toList ++
      (tree.after operation).effects location name rest

/-- What the last of them left there, or what the tree had at first. -/
def remembered (tree : FileTree) (location : Location) (name : Bytes)
    (history : List (Operation σ)) : Option Bytes :=
  (tree.effects location name history).getLast?.getD (tree.attribute? location name)

theorem sameLayout_after (tree : FileTree) (operation : Operation σ) :
    SameLayout (tree.after operation) tree := by
  cases operation with
  | change c =>
    rw [after, afterChange]
    split
    · rename_i changed hchanged
      obtain ⟨-, -, same, -⟩ := of_change_ok hchanged
      exact same
    · exact .rfl
  | query => exact .rfl
  | run => exact .rfl

/-- One operation makes the difference that its effect says. -/
theorem attribute?_after (tree : FileTree) (operation : Operation σ) (location : Location)
    (name : Bytes) :
    (tree.after operation).attribute? location name =
      (tree.effect? location name operation).getD (tree.attribute? location name) := by
  cases operation with
  | query => rfl
  | run => rfl
  | change c =>
    rw [after, afterChange, effect?]
    cases hchange : tree.change c with
    | error fault => simp [Except.isOk, Except.toBool]
    | ok changed =>
      obtain ⟨here, reaches, -, hattribute⟩ := of_change_ok hchange
      have hhere : tree.Reaches c.path location ↔ location = here := by
        constructor
        · exact fun h => h.unique reaches
        · rintro rfl
          exact reaches
      have heffect : (tree.Reaches c.path location ∧ c.name = name ∧
          (Except.ok changed : Except SystemError FileTree).isOk = true) ↔
          (location, name) = (here, c.name) := by
        simp [hhere, Except.isOk, Except.toBool, eq_comm]
      rw [hattribute location name]
      by_cases same : (location, name) = (here, c.name)
      · rw [if_pos same, if_pos (heffect.mpr same), Option.getD_some]
      · rw [if_neg same, if_neg (mt heffect.mp same), Option.getD_none]

theorem sameLayout_afterAll (tree : FileTree) (history : List (Operation σ)) :
    SameLayout (tree.afterAll history) tree := by
  induction history generalizing tree with
  | nil => exact .rfl
  | cons operation rest ih =>
    exact (ih (tree.after operation)).trans (sameLayout_after tree operation)

/-- The invariant of a history: what is kept is what is remembered. -/
theorem attribute?_afterAll (tree : FileTree) (history : List (Operation σ)) (location : Location)
    (name : Bytes) :
    (tree.afterAll history).attribute? location name = tree.remembered location name history := by
  induction history generalizing tree with
  | nil => rfl
  | cons operation rest ih =>
    rw [afterAll, List.foldl_cons, ← afterAll, ih, remembered, remembered, effects,
      List.getLast?_append, attribute?_after]
    cases ((tree.after operation).effects location name rest).getLast? with
    | some left => rfl
    | none => cases tree.effect? location name operation <;> rfl

theorem getElem?_tellAll (tree : FileTree) (earlier : List (Operation σ))
    (operation : Operation σ) (later : List (Operation σ)) :
    (tree.tellAll (earlier ++ operation :: later))[earlier.length]? =
      some ((tree.afterAll earlier).tell operation) := by
  induction earlier generalizing tree with
  | nil => rfl
  | cons first rest ih => exact ih (tree.after first)

/-- Two trees that differ in their attributes only, and not in this one. -/
structure AgreeAt (location : Location) (name : Bytes) (tree other : FileTree) : Prop extends
    SameLayout tree other where
  attribute_eq : tree.attribute? location name = other.attribute? location name

namespace AgreeAt

variable (agree : AgreeAt location name tree other)
include agree

theorem place (access : Access) (path named : Bytes) :
    tree.place access path named = other.place access path named := by
  unfold FileTree.place
  simp only [resolve_congr agree.nodes_eq, FileTree.nameFault?, node?_congr agree.nodes_eq,
    agree.outside_eq]

/-- A change where they agree goes as well in one as in the other. -/
theorem isOk_change {c : Change} (reaches : tree.Reaches c.path location) (named : c.name = name) :
    (tree.change c).isOk = (other.change c).isOk := by
  cases c with
  | set path written value =>
    rw [change, change, setAttribute, setAttribute, agree.place]
    split
    · rfl
    · cases other.place .changing path written <;> rfl
  | remove path removed =>
    obtain rfl : removed = name := named
    rw [change, change, removeAttribute, removeAttribute, agree.place]
    cases hplace : other.place .changing path removed with
    | error fault => rfl
    | ok here =>
      rw [← agree.place] at hplace
      obtain rfl : here = location := (place_eq_ok_iff.mp hplace).2.1.unique reaches
      simp only [agree.attribute_eq]
      cases other.attribute? here removed <;> rfl

theorem effect? (operation : Operation σ) :
    tree.effect? location name operation = other.effect? location name operation := by
  cases operation with
  | query => rfl
  | run => rfl
  | change c =>
    have hsame : (tree.Reaches c.path location ∧ c.name = name ∧ (tree.change c).isOk = true) ↔
        (other.Reaches c.path location ∧ c.name = name ∧ (other.change c).isOk = true) := by
      rw [← Reaches.congr agree.nodes_eq]
      refine and_congr_right fun reaches => and_congr_right fun named => ?_
      rw [agree.isOk_change reaches named]
    simp only [FileTree.effect?, hsame]

theorem after (operation : Operation σ) :
    AgreeAt location name (tree.after operation) (other.after operation) where
  nodes_eq := by
    rw [(sameLayout_after tree operation).nodes_eq, (sameLayout_after other operation).nodes_eq,
      agree.nodes_eq]
  outside_eq := by
    rw [(sameLayout_after tree operation).outside_eq, (sameLayout_after other operation).outside_eq,
      agree.outside_eq]
  attribute_eq := by rw [attribute?_after, attribute?_after, agree.effect?, agree.attribute_eq]

theorem afterAll (history : List (Operation σ)) :
    AgreeAt location name (tree.afterAll history) (other.afterAll history) := by
  induction history generalizing tree other with
  | nil => exact agree
  | cons operation rest ih => exact ih (agree.after operation)

end AgreeAt

/-- Leaving out an operation without effect leaves the rest of a history as it was. -/
theorem agreeAt_afterAll_of_no_effect {before : List (Operation σ)} {operation : Operation σ}
    (none : (tree.afterAll before).effect? location name operation = none)
    (between : List (Operation σ)) :
    AgreeAt location name (tree.afterAll (before ++ operation :: between))
      (tree.afterAll (before ++ between)) := by
  have agree : AgreeAt location name ((tree.afterAll before).after operation)
      (tree.afterAll before) := by
    refine ⟨sameLayout_after _ operation, ?_⟩
    rw [attribute?_after, none, Option.getD_none]
  have hrest := agree.afterAll between
  unfold FileTree.afterAll at hrest ⊢
  rwa [List.foldl_append, List.foldl_cons, List.foldl_append]

/-- Asking for the attribute where the trees agree gets the same answer from both. -/
theorem AgreeAt.source (agree : AgreeAt location name tree other)
    (reaches : tree.Reaches path location) (holds : tree.Holds location)
    (isUserName : IsUserName name) : tree.source ⟨path, name⟩ = other.source ⟨path, name⟩ := by
  have reachesToo : other.Reaches path location := (Reaches.congr agree.nodes_eq).mp reaches
  have holdsToo : other.Holds location := by
    rwa [Holds, ← node?_congr agree.nodes_eq]
  have same : tree.lookup path name = other.lookup path name := by
    rw [lookup_eq reaches holds isUserName, lookup_eq reachesToo holdsToo isUserName,
      agree.attribute_eq]
  funext before
  simp only [FileTree.source, Source.ofLookup, same]

end FileTree

/-- What a run prints and comes to, for the value that is asked for, if there is one. -/
inductive Shows (target : Invocation) (capacity : Nat) :
    Option Bytes → Except OutputError Outcome → Bytes → Prop where
  | missing : Shows target capacity none (.ok (.unavailable (.missing target))) []
  | empty : Shows target capacity (some []) (.ok .empty) []
  | tooLarge {value : Bytes} (exceeds : capacity < value.length) :
      Shows target capacity (some value)
        (.ok (.unavailable (.tooLarge target value.length capacity))) []
  | printed {value : Bytes} (nonempty : value ≠ []) (fits : value.length ≤ capacity) :
      Shows target capacity (some value) (.ok (.printed value.length)) (value ++ [0x0A])

namespace Shows

variable {target : Invocation} {capacity : Nat} {value? : Option Bytes}
  {result : Except OutputError Outcome} {output : Bytes}

theorem printed_iff (h : Shows target capacity value? result output) {value : Bytes} :
    result = .ok (.printed value.length) ∧ output = value ++ [0x0A] ↔
      value? = some value ∧ 1 ≤ value.length ∧ value.length ≤ capacity := by
  cases h with
  | missing => simp
  | empty =>
    refine iff_of_false (by simp) ?_
    rintro ⟨hvalue, positive, -⟩
    cases hvalue
    cases positive
  | tooLarge exceeds =>
    refine iff_of_false (by simp) ?_
    rintro ⟨hvalue, -, fits⟩
    cases hvalue
    exact absurd exceeds (Nat.not_lt.mpr fits)
  | printed nonempty fits =>
    constructor
    · rintro ⟨-, houtput⟩
      obtain rfl := List.append_cancel_right houtput
      exact ⟨rfl, List.length_pos_iff.mpr nonempty, fits⟩
    · rintro ⟨hvalue, -, -⟩
      cases hvalue
      exact ⟨rfl, rfl⟩

theorem empty_iff (h : Shows target capacity value? result output) :
    result = .ok .empty ∧ output = [] ↔ value? = some [] := by
  cases h with
  | missing => simp
  | empty => simp
  | tooLarge exceeds =>
    refine iff_of_false (by simp) ?_
    intro hvalue
    cases hvalue
    exact absurd exceeds (Nat.not_lt_zero capacity)
  | printed nonempty fits => simp [nonempty]

theorem tooLarge_iff (h : Shows target capacity value? result output) {length room : Nat} :
    result = .ok (.unavailable (.tooLarge target length room)) ∧ output = [] ↔
      ∃ value, value? = some value ∧ capacity < value.length ∧ length = value.length ∧
        room = capacity := by
  cases h with
  | missing => simp
  | empty => simp
  | tooLarge exceeds => simp [exceeds, eq_comm]
  | printed nonempty fits => simp [Nat.not_lt.mpr fits]

theorem missing_iff (h : Shows target capacity value? result output) :
    result = .ok (.unavailable (.missing target)) ∧ output = [] ↔ value? = none := by
  cases h <;> simp

end Shows

/-- A run on a file shows what is kept there, through every writer that fails on no line. -/
theorem runOnce_shows {σ : Type} {tree : FileTree} {path name : Bytes} {location : Location}
    (reaches : tree.Reaches path location) (holds : tree.Holds location)
    (isUserName : FileTree.IsUserName name) (capacity : Nat) {w : Writer σ} {s : σ}
    (takes : w.TakesLines s) :
    Shows ⟨path, name⟩ capacity (tree.attribute? location name)
      (runOnce capacity tree.source w s ⟨path, name⟩).result
      (runOnce capacity tree.source w s ⟨path, name⟩).output := by
  have hlookup := FileTree.lookup_eq reaches holds isUserName
  cases hvalue : tree.attribute? location name with
  | none =>
    have answers : Answers ⟨path, name⟩ capacity (tree.lookup path name)
        (.error (.missing ⟨path, name⟩)) [] := by
      rw [hlookup, hvalue]
      exact .missing
    obtain ⟨hresult, houtput⟩ := runOnce_of_error w s answers
    rw [FileTree.source, hresult, houtput]
    exact .missing
  | some value =>
    rcases Nat.lt_or_ge capacity value.length with exceeds | fits
    · have answers : Answers ⟨path, name⟩ capacity (tree.lookup path name)
          (.error (.tooLarge ⟨path, name⟩ value.length capacity)) [] := by
        rw [hlookup, hvalue]
        exact .tooLarge exceeds
      obtain ⟨hresult, houtput⟩ := runOnce_of_error w s answers
      rw [FileTree.source, hresult, houtput]
      exact .tooLarge exceeds
    · have answers : Answers ⟨path, name⟩ capacity (tree.lookup path name) (.ok value.length)
          value := by
        rw [hlookup, hvalue]
        exact .whole fits
      by_cases nothing : value = []
      · subst nothing
        obtain ⟨hresult, houtput⟩ := runOnce_of_empty w s answers
        rw [FileTree.source, hresult, houtput]
        exact .empty
      · obtain ⟨hresult, houtput⟩ := runOnce_of_value w s takes answers nothing
        rw [FileTree.source, hresult, houtput]
        exact .printed nothing fits

/-- A run on a file, whatever was done to the tree before, prints the value that was last set there
under the name, or that the tree had at first, if it is not empty and fits. An empty value is told
apart, a larger one is told with its length, and if there was none or it was removed, it is missing.
Nothing is printed then. Leaving out of the history any operation that did not change that value
makes no difference to the run. -/
theorem run_shows_remembered {σ : Type} {tree : FileTree} {path name : Bytes}
    {location : Location} (reaches : tree.Reaches path location) (holds : tree.Holds location)
    (isUserName : FileTree.IsUserName name) (earlier later : List (Operation σ)) (config : Config)
    {w : Writer σ} {s : σ} (takes : w.TakesLines s) :
    let target : Invocation := ⟨path, name⟩
    let run := Operation.run config target w s
    let value? := tree.remembered location name earlier
    ∃ seen, (tree.tellAll (earlier ++ run :: later))[earlier.length]? = some (.ran seen) ∧
      (∀ value, seen.result = .ok (.printed value.length) ∧ seen.output = value ++ [0x0A] ↔
        value? = some value ∧ 1 ≤ value.length ∧ value.length ≤ config.capacity) ∧
      (seen.result = .ok .empty ∧ seen.output = [] ↔ value? = some []) ∧
      (∀ length room,
        seen.result = .ok (.unavailable (.tooLarge target length room)) ∧ seen.output = [] ↔
          ∃ value, value? = some value ∧ config.capacity < value.length ∧
            length = value.length ∧ room = config.capacity) ∧
      (seen.result = .ok (.unavailable (.missing target)) ∧ seen.output = [] ↔ value? = none) ∧
      ∀ before operation between, earlier = before ++ operation :: between →
        (tree.afterAll before).effect? location name operation = none →
        (tree.tellAll (before ++ between ++ run :: later))[(before ++ between).length]? =
          some (.ran seen) := by
  intro target run value?
  -- No operation moves a node, so the path still leads to the same file.
  have hnodes := (tree.sameLayout_afterAll earlier).nodes_eq
  have reachesNow : (tree.afterAll earlier).Reaches path location :=
    (FileTree.Reaches.congr hnodes).mpr reaches
  have holdsNow : (tree.afterAll earlier).Holds location := by
    rwa [FileTree.Holds, FileTree.node?_congr hnodes]
  have shows := runOnce_shows reachesNow holdsNow isUserName config.capacity takes
  rw [tree.attribute?_afterAll earlier] at shows
  refine ⟨(runOnce config.capacity (tree.afterAll earlier).source w s target).seen,
    tree.getElem?_tellAll earlier run later, fun value => shows.printed_iff, shows.empty_iff,
    fun length room => shows.tooLarge_iff, shows.missing_iff, ?_⟩
  rintro before operation between rfl noEffect
  have agree := FileTree.agreeAt_afterAll_of_no_effect noEffect between
  have same := agree.source reachesNow holdsNow isUserName
  rw [tree.getElem?_tellAll (before ++ between) run later]
  simp only [run, FileTree.tell, runOnce, target, readAttribute_congr w s _ _ same]

section Witness

open FileTree

/-- A directory that a link leads to as well, and a file in it that has an attribute. -/
def linkedDirectory : FileTree where
  nodes := [([[], asciiBytes "docs"], .directory),
    ([[], asciiBytes "docs", asciiBytes "plan"], .file),
    ([[], asciiBytes "link"], .link (asciiBytes "docs"))]
  attributes := [(([[], asciiBytes "docs", asciiBytes "plan"], asciiBytes "user.note"),
    asciiBytes "draft")]

/-- The note is set through the link; the changes behind it fail or go elsewhere. -/
def changedThroughLink : List (Operation Script) :=
  [.change (.remove (asciiBytes "docs/plan") (asciiBytes "user.note")),
    .change (.set (asciiBytes "link/plan") (asciiBytes "user.note") (asciiBytes "final")),
    .change (.set (asciiBytes "link") (asciiBytes "user.note") (asciiBytes "lost")),
    .run { capacity := 2 } ⟨asciiBytes "link/plan", asciiBytes "user.note"⟩ Script.writer
      (.refusing .noSpace),
    .change (.remove (asciiBytes "docs/plan") (asciiBytes "user.other")),
    .change (.set (asciiBytes "docs") (asciiBytes "user.note") (asciiBytes "list"))]

/-- The run prints what was set through the link. -/
theorem final_shown_through_link :
    let plan : Location := [[], asciiBytes "docs", asciiBytes "plan"]
    let target : Invocation := ⟨asciiBytes "docs/./plan", asciiBytes "user.note"⟩
    let run : Operation Script :=
      .run { capacity := 5, policy := .strict } target Script.writer .accepting
    linkedDirectory.Reaches target.path plan ∧ linkedDirectory.Holds plan ∧
      IsUserName target.name ∧
      linkedDirectory.remembered plan target.name changedThroughLink =
        some (asciiBytes "final") ∧
      ∃ seen, (linkedDirectory.tellAll (changedThroughLink ++ [run]))[6]? = some (.ran seen) ∧
        seen.result = .ok (.printed 5) ∧ seen.output = asciiBytes "final\n" := by
  intro plan target run
  have reaches : linkedDirectory.Reaches target.path plan := by decide +kernel
  have holds : linkedDirectory.Holds plan := by decide +kernel
  have isUserName : IsUserName target.name := by decide +kernel
  have takes : Script.writer.TakesLines .accepting :=
    Writer.Grants.takesLines (Script.grants (by decide)) rfl rfl
  have kept : linkedDirectory.remembered plan target.name changedThroughLink =
      some (asciiBytes "final") := by decide +kernel
  obtain ⟨seen, hseen, hprinted, -⟩ :=
    run_shows_remembered reaches holds isUserName changedThroughLink []
      { capacity := 5, policy := .strict } takes
  obtain ⟨hresult, houtput⟩ :=
    (hprinted (asciiBytes "final")).mpr ⟨kept, by decide, by decide⟩
  exact ⟨reaches, holds, isUserName, kept, seen, hseen, hresult, houtput⟩

end Witness

end AttributePrinter
