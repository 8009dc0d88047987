import AttributePrinter.Config.Load
import AttributePrinter.Proofs.Settings

/-!
# Variables in any order

Laying one value over another depends on which is on top. Two values under paths that part at some
key stay out of each other's way, however: where the paths still agree both are merged into the same
dictionary, and where they part they go under different keys of it. So an environment in which no
two paths are equal or begin alike up to the end of one can be listed in any order. What the values
are plays no part.
-/

namespace AttributePrinter.Setting

/-- Neither path is the beginning of the other, and they are not equal. -/
def Apart (path other : List Text) : Prop :=
  ¬ path <+: other ∧ ¬ other <+: path

theorem Apart.symm {path other : List Text} (apart : Apart path other) : Apart other path :=
  ⟨apart.2, apart.1⟩

theorem Apart.ne_nil {path other : List Text} (apart : Apart path other) : path ≠ [] := by
  rintro rfl
  exact apart.1 List.nil_prefix

/-- Behind a key in common the paths are still apart. -/
theorem Apart.of_cons {key : Text} {path other : List Text}
    (apart : Apart (key :: path) (key :: other)) : Apart path other := by
  constructor
  · exact fun h => apart.1 (List.cons_prefix_cons.mpr ⟨rfl, h⟩)
  · exact fun h => apart.2 (List.cons_prefix_cons.mpr ⟨rfl, h⟩)

/-- The entries that a dictionary laid over this is merged with. -/
def Value.entriesBelow : Option Value → Entries
  | some (.dict entries) => entries
  | _ => []

/-- A nested value makes a dictionary with one key changed out of anything. -/
theorem Value.over_nest_cons (key : Text) (path : List Text) (value : Value)
    (below : Option Value) :
    (nest (key :: path) value).over below =
      .dict (Entries.insert key
        ((nest path value).over (Entries.find? (entriesBelow below) key))
        (entriesBelow below)) := by
  match below with
  | some (.dict entries) => exact merge_nest_cons entries key path value
  | none | some (.bool _) | some (.natural _) | some (.integer _) | some (.fraction _)
  | some (.char _) | some (.text _) | some (.list _) => rfl

/-- Values under paths apart come to the same, whichever is laid over the other. -/
theorem Value.over_comm {path other : List Text} (apart : Apart path other)
    (value otherValue : Value) (below : Option Value) :
    (nest path value).over (some ((nest other otherValue).over below)) =
      (nest other otherValue).over (some ((nest path value).over below)) := by
  -- The recursion is on the keys that the paths have in common; the dictionaries met on the way
  -- are those under these keys, so what is below is general.
  induction path generalizing other below with
  | nil => exact absurd rfl apart.ne_nil
  | cons key path ih =>
    cases other with
    | nil => exact absurd rfl apart.symm.ne_nil
    | cons otherKey other =>
      simp only [over_nest_cons, entriesBelow, Entries.find?_insert]
      by_cases same : otherKey = key
      · subst same
        simp only [if_pos, Entries.insert_insert]
        rw [ih apart.of_cons]
      · simp only [if_neg same, if_neg (Ne.symm same)]
        rw [Entries.insert_comm (Ne.symm same)]

theorem Contribution.over_comm {c d : Contribution} (apart : Apart c.path d.path)
    (settings : Value) : d.over (c.over settings) = c.over (d.over settings) :=
  Value.over_comm apart.symm d.value c.value (some settings)

/-- The paths of two variables are apart, if both contribute. -/
def Variable.Apart (v u : Variable) : Prop :=
  ∀ path ∈ v.path?, ∀ other ∈ u.path?, Setting.Apart path other

instance (path other : List Text) : Decidable (Apart path other) :=
  inferInstanceAs (Decidable (¬ path <+: other ∧ ¬ other <+: path))

instance (v u : Variable) : Decidable (v.Apart u) :=
  inferInstanceAs (Decidable (∀ path ∈ v.path?, ∀ other ∈ u.path?, Setting.Apart path other))

namespace Environment

/-- One variable that contributes and breaks down is enough for the whole. -/
theorem readable_of_contributions? {env : Environment} {contributions : List Contribution}
    (h : env.contributions? = some contributions) : env.Readable := by
  induction env generalizing contributions with
  | nil =>
    intro v hv
    cases hv
  | cons v rest ih =>
    rw [contributions?] at h
    cases hpath : v.path? with
    | none =>
      rw [hpath] at h
      intro u hu contributes
      rcases List.mem_cons.mp hu with rfl | hrest
      · rw [hpath] at contributes
        cases contributes
      · exact ih h u hrest contributes
    | some path =>
      rw [hpath] at h
      obtain ⟨value, hvalue, hmap⟩ := Option.bind_eq_some_iff.mp h
      obtain ⟨others, hothers, -⟩ := Option.map_eq_some_iff.mp hmap
      intro u hu contributes
      rcases List.mem_cons.mp hu with rfl | hrest
      · rw [hvalue]
        rfl
      · exact ih hothers u hrest contributes

theorem contributions?_eq_none_iff (env : Environment) :
    env.contributions? = none ↔ ¬ env.Readable := by
  constructor
  · intro h readable
    rw [contributions?_eq readable] at h
    cases h
  · intro h
    cases hcontributions : env.contributions? with
    | none => rfl
    | some contributions => exact absurd (readable_of_contributions? hcontributions) h

variable {env other : Environment} (apart : env.Pairwise Variable.Apart)
include apart

/-- The contributions of variables apart can be laid over settings in any order. -/
theorem contributions_comm :
    ∀ c ∈ env.filterMap Variable.contribution?, ∀ d ∈ env.filterMap Variable.contribution?,
      ∀ settings : Value, d.over (c.over settings) = c.over (d.over settings) := by
  have hpairs : (env.filterMap Variable.contribution?).Pairwise fun c d =>
      ∀ settings : Value, d.over (c.over settings) = c.over (d.over settings) := by
    refine apart.filterMap Variable.contribution? ?_
    intro v u happart c hc d hd
    have hc := Variable.path_of_contribution hc
    have hd := Variable.path_of_contribution hd
    exact Contribution.over_comm (happart c.path hc d.path hd)
  intro c hc d hd
  refine List.Pairwise.forall_of_forall_of_flip (fun _ _ _ => rfl) hpairs ?_ hc hd
  exact hpairs.imp fun h settings => (h settings).symm

/-- The settings do not depend on the order of the environment. -/
theorem settings?_perm (perm : env.Perm other) : env.settings? = other.settings? := by
  by_cases readable : env.Readable
  · have readable' : other.Readable := readable.of_subset fun v hv => perm.mem_iff.mpr hv
    have hfold := (perm.filterMap Variable.contribution?).foldl_eq' (contributions_comm apart)
      (Value.dict [])
    rw [settings?, settings?, contributions?_eq readable, contributions?_eq readable',
      Option.map_some, Option.map_some, hfold]
  · have readable' : ¬ other.Readable := fun h =>
      readable (h.of_subset fun v hv => perm.mem_iff.mp hv)
    rw [settings?, settings?, (contributions?_eq_none_iff env).mpr readable,
      (contributions?_eq_none_iff other).mpr readable']

end Environment

end AttributePrinter.Setting

namespace AttributePrinter.Config

open Setting

/-- If no two variables that contribute have paths of which one is the other or begins it, loading
gives the same for every order of the environment: the same configuration, the same error, or a
breakdown. -/
theorem load_perm {env other : Environment} (apart : env.Pairwise Variable.Apart)
    (perm : env.Perm other) : load env = load other := by
  rw [load, load, Environment.settings?_perm apart perm]

/-- A policy in two parts, with a capacity and a variable that contributes nothing between them. -/
def partedPolicy : Environment :=
  [⟨asciiBytes "GETXATTR_EXIT_POLICY.STRICT", asciiBytes "\x7bsince=[1,2]\x7d"⟩,
    ⟨asciiBytes "GETXATTR_EXIT_POLICY.", asciiBytes "strict"⟩,
    ⟨asciiBytes " getxattr_Buffer_Capacity", asciiBytes "0"⟩,
    ⟨asciiBytes "getxattr_exit_policy.legacy", asciiBytes "'c'"⟩]

/-- The part whose key comes first in the order of keys is at fault, in whatever order the parts
are given, and it is reported before the capacity. -/
theorem load_partedPolicy_reverse :
    let fault : Setting.Error :=
      ⟨[policyKey, "legacy".toList], .wrongType (.text ['c']) .nothing⟩
    partedPolicy.Pairwise Variable.Apart ∧ partedPolicy.Perm partedPolicy.reverse ∧
      load partedPolicy.reverse = .error (.rejected (.invalid fault)) := by
  intro fault
  have apart : partedPolicy.Pairwise Variable.Apart := by decide +kernel
  have perm : partedPolicy.Perm partedPolicy.reverse := (List.reverse_perm partedPolicy).symm
  have hload : load partedPolicy = .error (.rejected (.invalid fault)) := by decide +kernel
  exact ⟨apart, perm, (load_perm apart perm).symm.trans hload⟩

end AttributePrinter.Config
