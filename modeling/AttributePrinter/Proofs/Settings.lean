import AttributePrinter.Setting.Environment

/-!
# Settings key by key

The settings of an environment are laid over each other variable by variable, but nothing passes
from one key to another: what is found under a key comes from the variables whose path starts with
it, in their order, and from no others. This holds at the first key of a path only; below it, later
variables may still extend or replace what earlier ones put there.
-/

namespace AttributePrinter.Setting

/-- A value over what there was, if anything. -/
def Value.over (value : Value) : Option Value → Value
  | none => value
  | some old => old.merge value

/-- A nested value touches the first key of its path and no other. -/
theorem merge_nest_cons (entries : Entries) (key : Text) (path : List Text) (value : Value) :
    (Value.dict entries).merge (nest (key :: path) value) =
      .dict (Entries.insert key ((nest path value).over (Entries.find? entries key)) entries) := by
  rw [nest, Value.merge, mergeEntries, mergeEntries]
  cases Entries.find? entries key <;> rfl

namespace Contribution

/-- Whether the path starts with `key`. -/
def isUnder (key : Text) (c : Contribution) : Bool :=
  c.path.head? = some key

/-- What becomes of the setting under the first key of the path. -/
def within (below : Option Value) (c : Contribution) : Option Value :=
  some ((nest c.path.tail c.value).over below)

/-- One contribution keeps a dictionary a dictionary and changes it under one key. -/
theorem over_dict {c : Contribution} (hpath : c.path ≠ []) (entries : Entries) :
    ∃ made, Contribution.over (.dict entries) c = .dict made ∧
      ∀ key, Entries.find? made key =
        if c.isUnder key then within (Entries.find? entries key) c
        else Entries.find? entries key := by
  obtain ⟨path, value⟩ := c
  cases path with
  | nil => exact absurd rfl hpath
  | cons first rest =>
    refine ⟨_, merge_nest_cons entries first rest value, fun key => ?_⟩
    rw [Entries.find?_insert]
    by_cases h : first = key
    · subst h
      simp [isUnder, within]
    · simp [isUnder, h]

/-- The invariant of the whole merge: each key sees its own contributions and no others. -/
theorem foldl_over_dict {contributions : List Contribution}
    (hpaths : ∀ c ∈ contributions, c.path ≠ []) (entries : Entries) :
    ∃ made, contributions.foldl Contribution.over (.dict entries) = .dict made ∧
      ∀ key, Entries.find? made key =
        (contributions.filter (isUnder key)).foldl within (Entries.find? entries key) := by
  induction contributions generalizing entries with
  | nil => exact ⟨entries, rfl, fun _ => rfl⟩
  | cons c rest ih =>
    obtain ⟨next, hnext, hfirst⟩ := over_dict (hpaths c List.mem_cons_self) entries
    obtain ⟨made, hmade, hrest⟩ := ih (fun d hd => hpaths d (List.mem_cons_of_mem c hd)) next
    refine ⟨made, by rw [List.foldl_cons, hnext, hmade], fun key => ?_⟩
    rw [hrest key, hfirst key, List.filter_cons]
    by_cases h : c.isUnder key = true
    · rw [if_pos h, if_pos h, List.foldl_cons]
    · rw [if_neg h, if_neg h]

end Contribution

namespace Variable

/-- Whether the variable contributes under `key`. -/
def isUnder (key : Text) (v : Variable) : Bool :=
  v.path?.bind List.head? = some key

/-- What the variable says, if it contributes and can be read. -/
def contribution? (v : Variable) : Option Contribution :=
  v.path?.bind fun path => v.read?.map fun value => ⟨path, value⟩

theorem path_ne_nil {v : Variable} {path : List Text} (h : v.path? = some path) : path ≠ [] := by
  unfold Variable.path? at h
  obtain ⟨rest, -, hpath⟩ := Option.bind_eq_some_iff.mp h
  simp only at hpath
  split at hpath
  · cases hpath
  · cases hpath
    exact Text.pieces_ne_nil '.' _

theorem path_of_contribution {v : Variable} {c : Contribution} (h : v.contribution? = some c) :
    v.path? = some c.path := by
  obtain ⟨path, hpath, hvalue⟩ := Option.bind_eq_some_iff.mp h
  obtain ⟨value, -, rfl⟩ := Option.map_eq_some_iff.mp hvalue
  exact hpath

end Variable

namespace Environment

/-- No variable that contributes breaks down on being read. -/
def Readable (env : Environment) : Prop :=
  ∀ v ∈ env, v.path?.isSome = true → v.read?.isSome = true

instance (env : Environment) : Decidable env.Readable :=
  inferInstanceAs (Decidable (∀ v ∈ env, v.path?.isSome = true → v.read?.isSome = true))

/-- The variables that contribute under `key`, in their order. -/
def under (env : Environment) (key : Text) : Environment :=
  env.filter (Variable.isUnder key)

/-- What the variables under `key` come to. -/
def setting? (env : Environment) (key : Text) : Option Value :=
  ((env.under key).filterMap Variable.contribution?).foldl Contribution.within none

theorem contributions?_eq {env : Environment} (readable : env.Readable) :
    env.contributions? = some (env.filterMap Variable.contribution?) := by
  induction env with
  | nil => rfl
  | cons v rest ih =>
    have hrest := ih fun u hu => readable u (List.mem_cons_of_mem v hu)
    rw [contributions?, List.filterMap_cons]
    cases hpath : v.path? with
    | none => simpa [Variable.contribution?, hpath] using hrest
    | some path =>
      have hread := readable v List.mem_cons_self (by simp [hpath])
      obtain ⟨value, hvalue⟩ := Option.isSome_iff_exists.mp hread
      simp [Variable.contribution?, hpath, hvalue, hrest]

/-- Filtering by key before reading and after reading come to the same. -/
theorem filter_contributions (env : Environment) (key : Text) :
    (env.filterMap Variable.contribution?).filter (Contribution.isUnder key) =
      (env.under key).filterMap Variable.contribution? := by
  induction env with
  | nil => rfl
  | cons v rest ih =>
    simp only [under] at ih
    rw [under, List.filterMap_cons, List.filter_cons]
    cases hsaid : v.contribution? with
    | none =>
      by_cases h : v.isUnder key = true
      · rw [if_pos h, List.filterMap_cons, hsaid, ih]
      · rw [if_neg h, ih]
    | some c =>
      have hsame : v.isUnder key = c.isUnder key := by
        simp [Variable.isUnder, Contribution.isUnder, Variable.path_of_contribution hsaid]
      by_cases h : v.isUnder key = true
      · rw [if_pos h, List.filterMap_cons, hsaid, List.filter_cons, ← hsame, if_pos h, ih]
      · rw [if_neg h, List.filter_cons, ← hsame, if_neg h, ih]

/-- A readable environment has settings, and each of them is that of its own variables. -/
theorem exists_settings {env : Environment} (readable : env.Readable) :
    ∃ entries, env.settings? = some entries ∧
      ∀ key, Entries.find? entries key = env.setting? key := by
  have hpaths : ∀ c ∈ env.filterMap Variable.contribution?, c.path ≠ [] := by
    intro c hc
    obtain ⟨v, -, hsaid⟩ := List.mem_filterMap.mp hc
    exact Variable.path_ne_nil (Variable.path_of_contribution hsaid)
  obtain ⟨entries, hmade, hfind⟩ := Contribution.foldl_over_dict hpaths []
  refine ⟨entries, ?_, fun key => ?_⟩
  · rw [settings?, contributions?_eq readable, Option.map_some, hmade]
  · rw [hfind key, filter_contributions, Entries.find?_nil, setting?]

theorem Readable.of_subset {env other : Environment} (readable : env.Readable)
    (h : ∀ v ∈ other, v ∈ env) : other.Readable :=
  fun v hv => readable v (h v hv)

theorem Readable.under {env : Environment} (readable : env.Readable) (key : Text) :
    (env.under key).Readable :=
  readable.of_subset fun _ hv => (List.mem_filter.mp hv).1

theorem setting?_congr {env other : Environment} {key : Text}
    (h : env.under key = other.under key) : env.setting? key = other.setting? key := by
  rw [setting?, setting?, h]

theorem setting?_under (env : Environment) (key : Text) :
    (env.under key).setting? key = env.setting? key :=
  setting?_congr (by simp [under])

/-- No variable contributes under two keys. -/
theorem setting?_under_of_ne (env : Environment) {key other : Text} (h : key ≠ other) :
    (env.under key).setting? other = none := by
  have hnone : (env.under key).under other = [] := by
    simp only [under, List.filter_filter, List.filter_eq_nil_iff, Bool.and_eq_true, not_and]
    intro v _ hother hkey
    simp only [Variable.isUnder, decide_eq_true_eq] at hother hkey
    exact h (Option.some.inj (hkey.symm.trans hother))
  rw [setting?, hnone]
  rfl

end Environment

end AttributePrinter.Setting
