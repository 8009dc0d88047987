import AttributePrinter.Program
import AttributePrinter.Proofs.Retrieving

/-!
# How the program ends

The exit code and the output of a run, told without the stages: they follow from what loading the
configuration gives, the first two arguments, the value that the files have for them, and whether
standard output takes anything. Of the files only their lookup is asked, and it may be any.
-/

namespace AttributePrinter.Program

/-- The ways that a run can go, in the order of its stages, each with its ending and output. -/
inductive Goes (lookup : Lookup) (arguments : List Bytes) (environment : Setting.Environment)
    (stdout : Stdout) : Ending → Bytes → Prop where
  | breakdown (load : Config.load environment = .error .breakdown) :
      Goes lookup arguments environment stdout .breakdown []
  | config {error : ConfigError} (load : Config.load environment = .error (.rejected error)) :
      Goes lookup arguments environment stdout (.failure (.config error)) []
  | arguments {config : Config} (missing : Argument) (load : Config.load environment = .ok config)
      (few : arguments.length < 2) :
      Goes lookup arguments environment stdout (.failure (.arguments missing)) []
  | printed {config : Config} {path name value : Bytes} {extra : List Bytes}
      (load : Config.load environment = .ok config) (enough : arguments = path :: name :: extra)
      (found : lookup.Retrieves config.capacity path name value) (nonempty : value ≠ [])
      (working : stdout = .working) :
      Goes lookup arguments environment stdout .success (value ++ [0x0A])
  | output {config : Config} {path name value : Bytes} {extra : List Bytes}
      (load : Config.load environment = .ok config) (enough : arguments = path :: name :: extra)
      (found : lookup.Retrieves config.capacity path name value) (nonempty : value ≠ [])
      (full : stdout = .full) :
      Goes lookup arguments environment stdout (.failure (.output ⟨.noSpace⟩)) []
  | empty {config : Config} {path name : Bytes} {extra : List Bytes}
      (load : Config.load environment = .ok config) (enough : arguments = path :: name :: extra)
      (found : lookup.Retrieves config.capacity path name []) :
      Goes lookup arguments environment stdout .success []
  | unavailable {config : Config} {path name : Bytes} {extra : List Bytes}
      (load : Config.load environment = .ok config) (enough : arguments = path :: name :: extra)
      (lost : ∀ value, ¬ lookup.Retrieves config.capacity path name value)
      (policy : config.policy = .legacy) : Goes lookup arguments environment stdout .success []
  | refused {config : Config} {path name : Bytes} {extra : List Bytes} (error : RetrievalError)
      (load : Config.load environment = .ok config) (enough : arguments = path :: name :: extra)
      (lost : ∀ value, ¬ lookup.Retrieves config.capacity path name value)
      (policy : config.policy = .strict) :
      Goes lookup arguments environment stdout (.failure (.unavailable error)) []

variable {lookup : Lookup} {arguments : List Bytes} {environment : Setting.Environment}
  {stdout : Stdout} {value : Bytes}

section RunWith

variable {config : Config} {path name : Bytes} {extra : List Bytes} {length : Nat}

theorem runWith_of_error {error : RetrievalError} {copied : Bytes}
    (answers : Answers ⟨path, name⟩ config.capacity (lookup path name) (.error error) copied) :
    let result := runWith config ⟨.ofLookup lookup, path :: name :: extra, environment, stdout⟩
    result.ending = (if config.policy = .strict then .failure (.unavailable error) else .success) ∧
      result.output = [] := by
  intro result
  obtain ⟨hresult, houtput⟩ := runOnce_of_error Script.writer stdout.script answers
  refine ⟨?_, houtput⟩
  simp only [result, runWith, Invocation.ofArguments, hresult]
  cases config.policy <;> rfl

theorem runWith_of_value
    (answers : Answers ⟨path, name⟩ config.capacity (lookup path name) (.ok length) value) :
    let result := runWith config ⟨.ofLookup lookup, path :: name :: extra, environment, stdout⟩
    result.ending =
        (if value ≠ [] ∧ stdout = .full then .failure (.output ⟨.noSpace⟩) else .success) ∧
      result.output = if value ≠ [] ∧ stdout = .working then value ++ [0x0A] else [] := by
  intro result
  by_cases nonempty : value = []
  · subst nonempty
    obtain ⟨hresult, houtput⟩ := runOnce_of_empty Script.writer stdout.script answers
    refine ⟨?_, houtput⟩
    simp only [result, runWith, Invocation.ofArguments, hresult]
    rfl
  · cases stdout with
    | working =>
      obtain ⟨hresult, houtput⟩ := runOnce_of_value _ _ Script.accepting_takesLines answers nonempty
      rw [if_neg (by simp), if_pos ⟨nonempty, rfl⟩]
      refine ⟨?_, houtput⟩
      simp only [result, runWith, Invocation.ofArguments, Stdout.script, hresult]
      rfl
    | full =>
      obtain ⟨hresult, houtput⟩ := runOnce_refusing .noSpace answers nonempty
      rw [if_pos ⟨nonempty, rfl⟩, if_neg (by simp)]
      refine ⟨?_, houtput⟩
      simp only [result, runWith, Invocation.ofArguments, Stdout.script, hresult]

end RunWith

theorem runWith_goes {config : Config} (load : Config.load environment = .ok config) :
    Goes lookup arguments environment stdout
      (runWith config ⟨.ofLookup lookup, arguments, environment, stdout⟩).ending
      (runWith config ⟨.ofLookup lookup, arguments, environment, stdout⟩).output := by
  rcases arguments with _ | ⟨path, _ | ⟨name, extra⟩⟩
  · exact .arguments _ load (by simp)
  · exact .arguments _ load (by simp)
  by_cases found : ∃ value, lookup.Retrieves config.capacity path name value
  · obtain ⟨value, found⟩ := found
    obtain ⟨hending, houtput⟩ := runWith_of_value found.answers
    rw [hending, houtput]
    by_cases nonempty : value = []
    · subst nonempty
      exact .empty load rfl found
    · cases stdout with
      | working =>
        rw [if_neg (by simp), if_pos ⟨nonempty, rfl⟩]
        exact .printed load rfl found nonempty rfl
      | full =>
        rw [if_pos ⟨nonempty, rfl⟩, if_neg (by simp)]
        exact .output load rfl found nonempty rfl
  · have lost := not_exists.mp found
    obtain ⟨error, answers⟩ := Lookup.exists_error_of_not_retrieves lost
    obtain ⟨hending, houtput⟩ := runWith_of_error answers
    rw [hending, houtput]
    cases policy : config.policy with
    | legacy => exact .unavailable load rfl lost policy
    | strict => exact .refused error load rfl lost policy

theorem run_goes :
    Goes lookup arguments environment stdout
      (run ⟨.ofLookup lookup, arguments, environment, stdout⟩).ending
      (run ⟨.ofLookup lookup, arguments, environment, stdout⟩).output := by
  cases load : Config.load environment with
  | error failure =>
    cases failure with
    | breakdown =>
      simp only [run, load]
      exact .breakdown load
    | rejected error =>
      simp only [run, load]
      exact .config load
  | ok config =>
    simp only [run, load]
    exact runWith_goes load

/-- The value that a run prints: there is one, it is not empty, and something takes it. -/
def Prints (lookup : Lookup) (arguments : List Bytes) (environment : Setting.Environment)
    (stdout : Stdout) (value : Bytes) : Prop :=
  stdout = .working ∧ ∃ config path name extra, Config.load environment = .ok config ∧
    arguments = path :: name :: extra ∧ lookup.Retrieves config.capacity path name value ∧
    1 ≤ value.length

theorem Prints.loads (h : Prints lookup arguments environment stdout value) :
    (∃ config, Config.load environment = .ok config) ∧ 2 ≤ arguments.length := by
  obtain ⟨-, config, path, name, extra, load, rfl, -⟩ := h
  exact ⟨⟨config, load⟩, by simp⟩

theorem Prints.retrieves {config : Config} {path name : Bytes} {extra : List Bytes}
    (h : Prints lookup arguments environment stdout value)
    (load : Config.load environment = .ok config) (enough : arguments = path :: name :: extra) :
    lookup.Retrieves config.capacity path name value ∧ 1 ≤ value.length := by
  obtain ⟨-, config', path', name', extra', load', enough', found, positive⟩ := h
  obtain rfl := Except.ok.inj (load.symm.trans load')
  obtain ⟨rfl, rfl, rfl⟩ : path = path' ∧ name = name' ∧ extra = extra' := by
    simpa using enough.symm.trans enough'
  exact ⟨found, positive⟩

theorem Prints.unique {other : Bytes} (h : Prints lookup arguments environment stdout value)
    (h' : Prints lookup arguments environment stdout other) : value = other := by
  obtain ⟨-, config, path, name, extra, load, enough, found, -⟩ := h
  exact found.unique (h'.retrieves load enough).1

theorem Ending.code_eq_zero_iff (ending : Ending) : ending.code = 0 ↔ ending = .success := by
  cases ending <;> simp [Ending.code]

theorem Ending.code_eq_101_iff (ending : Ending) : ending.code = 101 ↔ ending = .breakdown := by
  cases ending <;> simp [Ending.code]

/-- Behind the configuration nothing breaks down. -/
theorem runWith_ending_ne_breakdown (config : Config) (start : Start) :
    (runWith config start).ending ≠ .breakdown := by
  unfold runWith
  split
  · simp
  simp only
  split
  · simp
  split
  · simp
  · simp

/-- Whatever the source is. -/
theorem run_ending_eq_breakdown_iff {start : Start} :
    (run start).ending = .breakdown ↔ Config.load start.environment = .error .breakdown := by
  unfold run
  split
  · rename_i hload
    exact iff_of_true rfl hload
  · rename_i error hload
    exact iff_of_false (by simp) (by simp [hload])
  · rename_i config hload
    exact iff_of_false (runWith_ending_ne_breakdown config start) (by simp [hload])

/-- Nothing goes to standard error exactly if nothing went wrong. -/
theorem Ending.report_eq_nil_iff (ending : Ending) (raw : Bool) (notice : Notice) :
    ending.report raw notice = [] ↔ ending = .success := by
  cases ending with
  | success => exact iff_of_true rfl rfl
  | failure why =>
    exact iff_of_false (List.append_ne_nil_of_right_ne_nil _ (List.cons_ne_nil _ _)) (by simp)
  | breakdown => exact iff_of_false notice.nonempty (by simp)

namespace Goes

variable {ending : Ending} {output : Bytes}

theorem code_eq_breakdown_iff (h : Goes lookup arguments environment stdout ending output) :
    ending.code = 101 ↔ Config.load environment = .error .breakdown := by
  cases h <;> simp_all [Ending.code]

theorem success_iff (h : Goes lookup arguments environment stdout ending output) :
    ending = .success ↔ ∃ config path name extra, Config.load environment = .ok config ∧
      arguments = path :: name :: extra ∧
      ¬ (stdout = .full ∧
        ∃ value, lookup.Retrieves config.capacity path name value ∧ 1 ≤ value.length) ∧
      (config.policy = .legacy ∨ ∃ value, lookup.Retrieves config.capacity path name value) := by
  cases h with
  | breakdown load => simp [load]
  | config load => simp [load]
  | arguments missing load few =>
    refine iff_of_false (by simp) ?_
    rintro ⟨_, path, name, extra, -, rfl, -⟩
    simp only [List.length_cons] at few
    omega
  | printed load enough found nonempty working =>
    refine iff_of_true rfl ⟨_, _, _, _, load, enough, ?_, Or.inr ⟨_, found⟩⟩
    simp [working]
  | output load enough found nonempty full =>
    refine iff_of_false (by simp) ?_
    rintro ⟨config', path', name', extra', load', enough', hfull, -⟩
    obtain rfl := Except.ok.inj (load.symm.trans load')
    obtain ⟨rfl, rfl, rfl⟩ : _ ∧ _ ∧ _ := by simpa using enough.symm.trans enough'
    exact hfull ⟨full, _, found, List.length_pos_iff.mpr nonempty⟩
  | empty load enough found =>
    refine iff_of_true rfl ⟨_, _, _, _, load, enough, ?_, Or.inr ⟨_, found⟩⟩
    rintro ⟨-, value, found', positive⟩
    rw [← found.unique found'] at positive
    cases positive
  | unavailable load enough lost policy =>
    refine iff_of_true rfl ⟨_, _, _, _, load, enough, ?_, Or.inl policy⟩
    rintro ⟨-, value, found, -⟩
    exact lost value found
  | refused error load enough lost policy =>
    simp [load, enough, lost, policy]

/-- There is output only for a value that has to be printed, and then the run went well. -/
theorem output_cases (h : Goes lookup arguments environment stdout ending output) :
    (∃ value, Prints lookup arguments environment stdout value ∧ output = value ++ [0x0A] ∧
      ending = .success) ∨
    (output = [] ∧ ∀ value, ¬ Prints lookup arguments environment stdout value) := by
  cases h with
  | breakdown load =>
    refine Or.inr ⟨rfl, fun value hprints => ?_⟩
    obtain ⟨config, load'⟩ := hprints.loads.1
    cases load.symm.trans load'
  | config load =>
    refine Or.inr ⟨rfl, fun value hprints => ?_⟩
    obtain ⟨config, load'⟩ := hprints.loads.1
    cases load.symm.trans load'
  | arguments missing load few =>
    refine Or.inr ⟨rfl, fun value hprints => ?_⟩
    have enough := hprints.loads.2
    omega
  | @printed config path name value extra load enough found nonempty working =>
    refine Or.inl ⟨value, ⟨working, config, path, name, extra, load, enough, found, ?_⟩, rfl, rfl⟩
    exact List.length_pos_iff.mpr nonempty
  | output load enough found nonempty full =>
    refine Or.inr ⟨rfl, fun value hprints => ?_⟩
    cases full.symm.trans hprints.1
  | empty load enough found =>
    refine Or.inr ⟨rfl, fun value hprints => ?_⟩
    obtain ⟨found', positive⟩ := hprints.retrieves load enough
    rw [← found.unique found'] at positive
    cases positive
  | unavailable load enough lost policy =>
    exact Or.inr ⟨rfl, fun value hprints => lost value (hprints.retrieves load enough).1⟩
  | refused error load enough lost policy =>
    exact Or.inr ⟨rfl, fun value hprints => lost value (hprints.retrieves load enough).1⟩

end Goes

/-- The code and both outputs of a run, whatever the files have and whatever the runtime writes on a
breakdown. There are only three codes; output and report exclude each other, and what is printed is
the whole value. -/
theorem run_code_and_outputs (lookup : Lookup) (arguments : List Bytes)
    (environment : Setting.Environment) (stdout : Stdout) :
    let result := run ⟨.ofLookup lookup, arguments, environment, stdout⟩
    let code := result.ending.code
    (code = 101 ↔ Config.load environment = .error .breakdown) ∧
    (code = 0 ↔ ∃ config path name extra, Config.load environment = .ok config ∧
      arguments = path :: name :: extra ∧
      ¬ (stdout = .full ∧
        ∃ value, lookup.Retrieves config.capacity path name value ∧ 1 ≤ value.length) ∧
      (config.policy = .legacy ∨ ∃ value, lookup.Retrieves config.capacity path name value)) ∧
    (code = 0 ∨ code = 1 ∨ code = 101) ∧
    (∀ value, result.output = value ++ [0x0A] ↔
      Prints lookup arguments environment stdout value) ∧
    (result.output = [] ↔ ∀ value, ¬ Prints lookup arguments environment stdout value) ∧
    (result.output = [] ∨ code = 0) ∧
    ∀ raw notice, result.ending.report raw notice = [] ↔ code = 0 := by
  intro result code
  have goes : Goes lookup arguments environment stdout result.ending result.output := run_goes
  have hcode : code = 0 ↔ result.ending = .success := result.ending.code_eq_zero_iff
  have hcodes : code = 0 ∨ code = 1 ∨ code = 101 := by
    simp only [code]
    cases result.ending <;> simp [Ending.code]
  refine ⟨goes.code_eq_breakdown_iff, hcode.trans goes.success_iff, hcodes, ?_⟩
  have hreport : ∀ raw notice, result.ending.report raw notice = [] ↔ code = 0 :=
    fun raw notice => (result.ending.report_eq_nil_iff raw notice).trans hcode.symm
  rcases goes.output_cases with ⟨value, hprints, houtput, hsuccess⟩ | ⟨houtput, hnone⟩
  · refine ⟨fun other => ?_, ?_, Or.inr (hcode.mpr hsuccess), hreport⟩
    · rw [houtput, List.append_cancel_right_eq]
      constructor
      · rintro rfl
        exact hprints
      · exact hprints.unique
    · exact iff_of_false (by simp [houtput]) fun hnone => hnone value hprints
  · refine ⟨fun other => ?_, iff_of_true houtput hnone, Or.inl houtput, hreport⟩
    exact iff_of_false (by simp [houtput]) (hnone other)

end AttributePrinter.Program
