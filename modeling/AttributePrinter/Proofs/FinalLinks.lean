import AttributePrinter.Proofs.Locations
import AttributePrinter.Proofs.Querying

/-!
# Links are not followed

A query through a path that ends in a link does not get to the file that the link leads to. It is
answered for the link itself, which has no attributes in the `user` namespace: under every name
there that a file can have an attribute under, it is missing. So the link answers like its file
exactly as long as the file has nothing to answer with. How links answer in other namespaces is the
system's affair.
-/

namespace AttributePrinter

/-- The ways that a query fails, without what it was about. -/
inductive RetrievalError.Kind where
  | missing
  | system
  | tooLarge
  deriving DecidableEq, Repr

def RetrievalError.kind : RetrievalError → Kind
  | .missing _ => .missing
  | .system .. => .system
  | .tooLarge .. => .tooLarge

/-- Both queries succeed, with the same length and the same bytes in the buffer, or both fail in
the same way. -/
def Reply.Alike {capacity : Nat} (buffer : Buffer capacity) (reply other : Reply) : Prop :=
  match reply.answer, other.answer with
  | .ok length, .ok otherLength =>
    length = otherLength ∧ (buffer.store 0 reply.copied).bytes = (buffer.store 0 other.copied).bytes
  | .error error, .error otherError => error.kind = otherError.kind
  | .ok _, .error _ => False
  | .error _, .ok _ => False

section Alike

variable {capacity : Nat} {lookup : Lookup} {target other : Invocation} (buffer : Buffer capacity)

theorem Source.alike_of_errors {fault otherFault : SystemError}
    (refused : lookup target.path target.name = .error fault)
    (otherRefused : lookup other.path other.name = .error otherFault) :
    (ofLookup lookup target buffer.bytes).Alike buffer (ofLookup lookup other buffer.bytes) := by
  have hanswer := (ofLookup_answers lookup target buffer).system_iff.mpr refused
  have hother := (ofLookup_answers lookup other buffer).system_iff.mpr otherRefused
  rw [Reply.Alike, hanswer, hother]
  rfl

/-- Nothing is like nothing only. -/
theorem Source.alike_iff_of_missing (missing : lookup target.path target.name = .ok none) :
    (ofLookup lookup target buffer.bytes).Alike buffer (ofLookup lookup other buffer.bytes) ↔
      lookup other.path other.name = .ok none := by
  have hanswer := (ofLookup_answers lookup target buffer).missing_iff.mpr missing
  have answers := ofLookup_answers lookup other buffer
  rw [Reply.Alike, hanswer]
  cases hfound : lookup other.path other.name with
  | error fault =>
    rw [answers.system_iff.mpr hfound]
    simp [RetrievalError.kind]
  | ok found =>
    cases found with
    | none =>
      rw [answers.missing_iff.mpr hfound]
      simp [RetrievalError.kind]
    | some value =>
      rcases Nat.lt_or_ge capacity value.length with exceeds | fits
      · rw [answers.tooLarge_iff.mpr ⟨value, hfound, exceeds, rfl, rfl⟩]
        simp [RetrievalError.kind]
      · rw [answers.ok_iff.mpr ⟨value, hfound, fits, rfl⟩]
        simp

end Alike

namespace FileTree

/-- The path ends in a link, which leads to a file or a directory if it is followed. -/
structure EndsInLink (tree : FileTree) (path : Bytes) (location : Location) : Prop where
  atLink : ∃ here target, tree.Reaches path here ∧ tree.node? here = some (.link target)
  leads : tree.resolve true path = .ok location
  holds : tree.Holds location

variable {tree : FileTree} {path own name : Bytes} {location : Location} {capacity : Nat}

/-- What is wrong with a path and a name is wrong with the name, if the path has no zero byte. -/
theorem Reaches.argumentFault? (reaches : tree.Reaches path location) (name : Bytes) :
    FileTree.argumentFault? path name = FileTree.argumentFault? [] name := by
  simp [FileTree.argumentFault?, reaches.1]

/-- A name in the namespace that no file can have an attribute under is refused alike everywhere. -/
theorem exists_refusal (inSpace : userNamespace.isPrefixOf name = true)
    (improper : ¬ IsUserName name) (notBare : name ≠ userNamespace) :
    ∃ fault, ∀ {tree : FileTree} {path : Bytes} {location : Location},
      tree.Reaches path location → tree.lookup path name = .error fault := by
  cases hargument : argumentFault? [] name with
  | none =>
    obtain ⟨-, clean, -, short⟩ := argumentFault?_eq_none_iff.mp hargument
    exact absurd ⟨inSpace, notBare, short, clean⟩ improper
  | some fault =>
    have notNoData : fault ≠ .noData := by
      unfold argumentFault? at hargument
      split at hargument
      · cases hargument
        decide
      · split at hargument
        · cases hargument
          decide
        · cases hargument
    refine ⟨fault, fun reaches => ?_⟩
    simp only [lookup, place, reaches.argumentFault? name, hargument, if_neg notNoData]

/-- A link has no attribute in the namespace. -/
theorem lookup_of_link {target : Bytes} (reaches : tree.Reaches path location)
    (link : tree.node? location = some (.link target))
    (inSpace : userNamespace.isPrefixOf name = true)
    (valid : FileTree.argumentFault? [] name = none) : tree.lookup path name = .ok none := by
  simp only [lookup, place, reaches.argumentFault? name, valid, reaches.2, nameFault?,
    if_pos inSpace, link]
  rfl

/-- The namespace by itself is no name. -/
theorem lookup_userNamespace (reaches : tree.Reaches path location) (holds : tree.Holds location) :
    tree.lookup path userNamespace = .error .invalidArgument := by
  have hargument : argumentFault? [] userNamespace = none := by decide
  have within : userNamespace.isPrefixOf userNamespace = true := by decide
  have hname : tree.nameFault? .reading location userNamespace = some .invalidArgument := by
    rw [nameFault?, if_pos within]
    split
    · rename_i target hlink
      exact absurd hlink (holds.not_link target)
    · rw [if_pos rfl]
  simp only [lookup, place, reaches.argumentFault? userNamespace, hargument, reaches.2, hname]
  rfl

/-- A query through a link under a name in the namespace never succeeds and leaves the buffer as it
is; under a name that a file can have an attribute under, it finds nothing. So it does as the query
on the file that the link leads to if, and only if, the file has nothing under the name either, or
the name is refused everywhere. -/
theorem link_answers_like_file_iff (link : tree.EndsInLink path location)
    (reaches : tree.Reaches own location) (inSpace : userNamespace.isPrefixOf name = true)
    (buffer : Buffer capacity) :
    let reply := tree.source ⟨path, name⟩ buffer.bytes
    let onFile := tree.source ⟨own, name⟩ buffer.bytes
    (reply.Alike buffer onFile ↔
        name ≠ userNamespace ∧ (IsUserName name → tree.attribute? location name = none)) ∧
      (∃ error, reply.answer = .error error ∧ (buffer.store 0 reply.copied).bytes = buffer.bytes) ∧
      (IsUserName name → reply.answer = .error (.missing ⟨path, name⟩)) := by
  intro reply onFile
  obtain ⟨here, target, atLink, hlink⟩ := link.atLink
  have answers : Answers ⟨path, name⟩ capacity (tree.lookup path name) reply.answer reply.copied :=
    Source.ofLookup_answers tree.lookup ⟨path, name⟩ buffer
  have untouched : ∀ {error}, reply.answer = .error error →
      (buffer.store 0 reply.copied).bytes = buffer.bytes := by
    intro error failed
    obtain ⟨-, nothing⟩ := answers.of_error failed
    rw [nothing]
    exact buffer.store_start (Nat.zero_le capacity)
  by_cases bare : name = userNamespace
  · have valid : FileTree.argumentFault? [] name = none := by
      rw [bare]
      decide
    have hmissing := lookup_of_link atLink hlink inSpace valid
    have hanswer := answers.missing_iff.mpr hmissing
    refine ⟨?_, ⟨_, hanswer, untouched hanswer⟩, fun _ => hanswer⟩
    refine iff_of_false ?_ fun h => h.1 bare
    intro alike
    have hfile := (Source.alike_iff_of_missing buffer hmissing).mp alike
    subst bare
    cases hfile.symm.trans (lookup_userNamespace reaches link.holds)
  · by_cases isUserName : IsUserName name
    · have valid : FileTree.argumentFault? [] name = none := isUserName.argumentFault? (by simp)
      have hmissing := lookup_of_link atLink hlink inSpace valid
      have hanswer := answers.missing_iff.mpr hmissing
      refine ⟨?_, ⟨_, hanswer, untouched hanswer⟩, fun _ => hanswer⟩
      have hfile := lookup_eq reaches link.holds isUserName
      refine (Source.alike_iff_of_missing buffer hmissing).trans ?_
      simp [hfile, bare, isUserName]
    · obtain ⟨fault, refused⟩ := exists_refusal inSpace isUserName bare
      have hanswer := answers.system_iff.mpr (refused atLink)
      refine ⟨?_, ⟨_, hanswer, untouched hanswer⟩, fun h => absurd h isUserName⟩
      refine iff_of_true ?_ ⟨bare, fun h => absurd h isUserName⟩
      exact Source.alike_of_errors buffer (refused atLink) (refused reaches)

/-- A file with a note, a link to the file, and a link to that link. -/
def linkedNote : FileTree where
  nodes := [([[], asciiBytes "f"], .file), ([[], asciiBytes "l"], .link (asciiBytes "f")),
    ([[], asciiBytes "k"], .link (asciiBytes "l"))]
  attributes := [(([[], asciiBytes "f"], asciiBytes "user.note"), asciiBytes "hello")]

/-- Through both links the note is not found, and neither is an attribute that is not set; only the
second answer is that of the file. -/
theorem note_lost_behind_two_links :
    let buffer := Buffer.zeroed 16
    let through (name : String) :=
      linkedNote.source ⟨asciiBytes "k", asciiBytes name⟩ buffer.bytes
    let onFile (name : String) :=
      linkedNote.source ⟨asciiBytes "./f", asciiBytes name⟩ buffer.bytes
    linkedNote.EndsInLink (asciiBytes "k") [[], asciiBytes "f"] ∧
      linkedNote.Reaches (asciiBytes "./f") [[], asciiBytes "f"] ∧
      userNamespace.isPrefixOf (asciiBytes "user.note") = true ∧
      userNamespace.isPrefixOf (asciiBytes "user.other") = true ∧
      ¬ (through "user.note").Alike buffer (onFile "user.note") ∧
      (through "user.other").Alike buffer (onFile "user.other") := by
  intro buffer through onFile
  have link : linkedNote.EndsInLink (asciiBytes "k") [[], asciiBytes "f"] :=
    ⟨⟨[[], asciiBytes "k"], asciiBytes "l", by decide +kernel, by decide +kernel⟩,
      by decide +kernel, by decide +kernel⟩
  have reaches : linkedNote.Reaches (asciiBytes "./f") [[], asciiBytes "f"] := by decide +kernel
  have noteInSpace : userNamespace.isPrefixOf (asciiBytes "user.note") = true := by decide
  have otherInSpace : userNamespace.isPrefixOf (asciiBytes "user.other") = true := by decide
  obtain ⟨note, -⟩ := link_answers_like_file_iff link reaches noteInSpace buffer
  obtain ⟨other, -⟩ := link_answers_like_file_iff link reaches otherInSpace buffer
  refine ⟨link, reaches, noteInSpace, otherInSpace, ?_, ?_⟩
  · rw [note]
    decide +kernel
  · rw [other]
    decide +kernel

/-- A query through a link does not do as the query on the file: the one fails where the other
succeeds. -/
theorem link_not_followed :
    let buffer := Buffer.zeroed 16
    let reply := linkedNote.source ⟨asciiBytes "l", asciiBytes "user.note"⟩ buffer.bytes
    let onFile := linkedNote.source ⟨asciiBytes "f", asciiBytes "user.note"⟩ buffer.bytes
    linkedNote.EndsInLink (asciiBytes "l") [[], asciiBytes "f"] ∧
      linkedNote.Reaches (asciiBytes "f") [[], asciiBytes "f"] ∧
      onFile.answer = .ok 5 ∧
      reply.answer = .error (.missing ⟨asciiBytes "l", asciiBytes "user.note"⟩) ∧
      ¬ reply.Alike buffer onFile := by
  intro buffer reply onFile
  have link : linkedNote.EndsInLink (asciiBytes "l") [[], asciiBytes "f"] :=
    ⟨⟨[[], asciiBytes "l"], asciiBytes "f", by decide +kernel, by decide +kernel⟩,
      by decide +kernel, by decide +kernel⟩
  have reaches : linkedNote.Reaches (asciiBytes "f") [[], asciiBytes "f"] := by decide +kernel
  have succeeds : onFile.answer = .ok 5 := by decide +kernel
  have fails : reply.answer = .error (.missing ⟨asciiBytes "l", asciiBytes "user.note"⟩) := by
    decide +kernel
  refine ⟨link, reaches, succeeds, fails, ?_⟩
  rw [Reply.Alike, fails, succeeds]
  exact id

end FileTree

end AttributePrinter
