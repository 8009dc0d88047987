import AttributePrinter.Proofs.Ending

/-!
# How a run comes to fail

The stages of a run are the configuration, the arguments, printing and the exit policy, and a run
fails at the first stage that does. What the files hold is left open but for one thing: whatever
goes wrong below them has an error code. The attributes of a file tree are such files.
-/

namespace AttributePrinter

def SystemError.HasCode (error : SystemError) : Prop :=
  error.code?.isSome = true

/-- The attributes that a run can ask for. -/
structure Files where
  lookup : Lookup
  hasCode : ∀ {path name : Bytes} {cause : SystemError},
    lookup path name = .error cause → cause.HasCode

def Files.source (files : Files) : Source :=
  .ofLookup files.lookup

namespace FileTree

variable {tree : FileTree} {error : SystemError}

theorem advance_hasCode {follow : Bool} {here : Location} {names : List Bytes}
    (h : tree.advance follow here names = .failed error) : error.HasCode := by
  fun_induction advance tree follow here names with
  | case1 | case9 | case10 => cases h
  | case2 | case3 | case4 | case7 | case8 =>
    cases h
    rfl
  | case5 here rest _ ih => exact ih h
  | case6 here rest _ _ ih => exact ih h
  | case11 here name rest _ _ _ _ node _ _ ih => exact ih h

theorem walk_hasCode {follow : Bool} {links : Nat} {here : Location} {names : List Bytes}
    (h : tree.walk follow links here names = .error error) : error.HasCode := by
  fun_induction walk tree follow links here names with
  | case1 => cases h
  | case2 links here names cause failed =>
    obtain rfl : cause = error := Except.error.inj h
    exact advance_hasCode failed
  | case3 =>
    cases h
    rfl
  | case4 here names links directory target rest _ ih => exact ih h

theorem resolve_hasCode {follow : Bool} {path : Bytes}
    (h : tree.resolve follow path = .error error) : error.HasCode := by
  unfold resolve at h
  split at h
  · cases h
    rfl
  · split at h
    · cases h
      rfl
    · exact walk_hasCode h

theorem argumentFault?_hasCode {path name : Bytes} (h : argumentFault? path name = some error) :
    error.HasCode := by
  unfold argumentFault? at h
  split at h
  · cases h
    rfl
  · split at h <;> cases h
    rfl

theorem nameFault?_hasCode {access : Access} {location : Location} {name : Bytes}
    (h : tree.nameFault? access location name = some error) : error.HasCode := by
  unfold nameFault? at h
  split at h
  · split at h
    · cases h
      cases access <;> rfl
    · split at h <;> cases h
      rfl
  · obtain ⟨code, -, rfl⟩ := Option.map_eq_some_iff.mp h
    rfl

theorem place_hasCode {access : Access} {path name : Bytes}
    (h : tree.place access path name = .error error) : error.HasCode := by
  unfold place at h
  split at h
  · rename_i hargument
    cases h
    exact argumentFault?_hasCode hargument
  · split at h
    · rename_i hresolve
      cases h
      exact resolve_hasCode hresolve
    · split at h
      · rename_i hname
        cases h
        exact nameFault?_hasCode hname
      · cases h

theorem lookup_hasCode {path name : Bytes} (h : tree.lookup path name = .error error) :
    error.HasCode := by
  unfold lookup at h
  split at h
  · rename_i fault hplace
    split at h
    · cases h
    · obtain rfl : fault = error := Except.error.inj h
      exact place_hasCode hplace
  · cases h

/-- The attributes of a file tree, whose errors all have codes. -/
def files (tree : FileTree) : Files where
  lookup := tree.lookup
  hasCode := lookup_hasCode

/-- A run on a tree asks it as it asks any files. -/
theorem source_files (tree : FileTree) : tree.files.source = tree.source := rfl

end FileTree

namespace Program

/-- The ways that a run can fail, in the order of its stages. -/
inductive Fails (files : Files) (arguments : List Bytes) (environment : Setting.Environment)
    (stdout : Stdout) : Failure → Prop where
  | config {error : ConfigError} (load : Config.load environment = .error (.rejected error)) :
      Fails files arguments environment stdout (.config error)
  | noPath {config : Config} (load : Config.load environment = .ok config)
      (nothing : arguments = []) : Fails files arguments environment stdout (.arguments .path)
  | noName {config : Config} {path : Bytes} (load : Config.load environment = .ok config)
      (single : arguments = [path]) : Fails files arguments environment stdout (.arguments .name)
  | output {config : Config} {path name value : Bytes} {extra : List Bytes} {length : Nat}
      (load : Config.load environment = .ok config) (enough : arguments = path :: name :: extra)
      (answers : Answers ⟨path, name⟩ config.capacity (files.lookup path name) (.ok length) value)
      (nonempty : value ≠ []) (full : stdout = .full) :
      Fails files arguments environment stdout (.output ⟨.noSpace⟩)
  | unavailable {config : Config} {path name : Bytes} {extra : List Bytes} {error : RetrievalError}
      (load : Config.load environment = .ok config) (enough : arguments = path :: name :: extra)
      (answers : Answers ⟨path, name⟩ config.capacity (files.lookup path name) (.error error) [])
      (policy : config.policy = .strict) :
      Fails files arguments environment stdout (.unavailable error)

variable {files : Files} {arguments : List Bytes} {environment : Setting.Environment}
  {stdout : Stdout}

theorem Fails.ending {why : Failure} (h : Fails files arguments environment stdout why) :
    (run ⟨files.source, arguments, environment, stdout⟩).ending = .failure why := by
  cases h with
  | config load => simp only [run, load]
  | noPath load nothing =>
    subst nothing
    simp only [run, load]
    rfl
  | noName load single =>
    subst single
    simp only [run, load]
    rfl
  | output load enough answers nonempty full =>
    subst enough
    simp only [run, load]
    exact (runWith_of_value answers).1.trans (if_pos ⟨nonempty, full⟩)
  | unavailable load enough answers policy =>
    subst enough
    simp only [run, load]
    exact (runWith_of_error answers).1.trans (if_pos policy)

theorem fails_of_ending {why : Failure}
    (h : (run ⟨files.source, arguments, environment, stdout⟩).ending = .failure why) :
    Fails files arguments environment stdout why := by
  cases load : Config.load environment with
  | error failure =>
    simp only [run, load] at h
    cases failure with
    | breakdown => cases h
    | rejected error =>
      cases h
      exact .config load
  | ok config =>
    simp only [run, load] at h
    rcases arguments with _ | ⟨path, _ | ⟨name, extra⟩⟩
    · cases h
      exact .noPath load rfl
    · cases h
      exact .noName load rfl
    · have answers := Source.ofLookup_answers files.lookup ⟨path, name⟩
        (Buffer.zeroed config.capacity)
      generalize (Source.ofLookup files.lookup ⟨path, name⟩ _).answer = answer,
        (Source.ofLookup files.lookup ⟨path, name⟩ _).copied = copied at answers
      cases answer with
      | error error =>
        obtain ⟨-, rfl⟩ := answers.of_error rfl
        rw [Files.source, (runWith_of_error answers).1] at h
        split at h
        · cases h
          exact .unavailable load rfl answers ‹_›
        · cases h
      | ok length =>
        rw [Files.source, (runWith_of_value answers).1] at h
        split at h
        · rename_i condition
          cases h
          exact .output load rfl answers condition.1 condition.2
        · cases h

theorem run_ending_eq_failure_iff {why : Failure} :
    (run ⟨files.source, arguments, environment, stdout⟩).ending = .failure why ↔
      Fails files arguments environment stdout why :=
  ⟨fails_of_ending, Fails.ending⟩

end Program

end AttributePrinter
