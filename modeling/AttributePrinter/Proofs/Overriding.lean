import AttributePrinter.Proofs.Fields

/-!
# The last word on a field

What is laid over a setting settles it if it is no dictionary: nothing is left of what was there.
A dictionary, whether written as one or made by a longer path, may take up what was there, but the
outcome is a dictionary again. So the last variable under a key decides. If it gives the key itself
a plain value, earlier variables under the key may as well not exist; if not, the setting ends up
as a dictionary, which neither field accepts, and no earlier variable can help that.

Variables that do not contribute, such as those with an empty key in their path, are under no key:
the last variable is the last one that contributes.
-/

namespace AttributePrinter.Setting

def Value.isDict : Value → Bool
  | .dict _ => true
  | _ => false

namespace Value

theorem isDict_iff {value : Value} : value.isDict = true ↔ ∃ entries, value = .dict entries := by
  cases value <;> simp [isDict]

theorem merge_of_plain {value : Value} (plain : value.isDict = false) (below : Value) :
    below.merge value = value := by
  rw [merge]
  rintro _ above - rfl
  cases plain

/-- Merging two dictionaries gives a dictionary, and below a dictionary nothing else survives. -/
theorem isDict_merge (below value : Value) : (below.merge value).isDict = value.isDict := by
  cases hvalue : value.isDict with
  | false => rw [merge_of_plain hvalue, hvalue]
  | true =>
    obtain ⟨above, rfl⟩ := isDict_iff.mp hvalue
    cases below <;> simp only [merge, isDict]

theorem over_of_plain {value : Value} (plain : value.isDict = false) (below : Option Value) :
    value.over below = value := by
  cases below with
  | none => rfl
  | some old => exact merge_of_plain plain old

theorem isDict_over (value : Value) (below : Option Value) :
    (value.over below).isDict = value.isDict := by
  cases below with
  | none => rfl
  | some old => exact isDict_merge old value

/-- A value is a dictionary under every path of at least one key. -/
theorem isDict_nest_iff {path : List Text} {value : Value} :
    (nest path value).isDict = true ↔ path ≠ [] ∨ value.isDict = true := by
  cases path <;> simp [nest, isDict]

end Value

namespace Environment

/-- The variables that do not contribute under `key`, in their order. -/
def without (env : Environment) (key : Text) : Environment :=
  env.filter fun v => !v.isUnder key

theorem under_append (env more : Environment) (key : Text) :
    under (env ++ more) key = env.under key ++ under more key :=
  List.filter_append env more

theorem under_cons_of_isUnder {v : Variable} {key : Text} (h : v.isUnder key = true)
    (env : Environment) : under (v :: env) key = v :: env.under key :=
  List.filter_cons_of_pos h

theorem under_eq_nil_of_none {env : Environment} {key : Text}
    (h : ∀ v ∈ env, v.isUnder key = false) : env.under key = [] := by
  rw [under, List.filter_eq_nil_iff]
  intro v hv
  simp [h v hv]

/-- Leaving out one key changes nothing under another. -/
theorem under_without_of_ne (env : Environment) {key other : Text} (h : key ≠ other) :
    (env.without key).under other = env.under other := by
  rw [without, under, under, List.filter_filter]
  apply List.filter_congr
  intro v _
  by_cases hother : v.isUnder other = true
  · have hkey : v.isUnder key = false := by
      simp only [Variable.isUnder, decide_eq_true_eq] at hother
      simp [Variable.isUnder, hother, h.symm]
    simp [hkey]
  · simp [hother]

/-- The last variable under a key is laid over what the ones before it come to. -/
theorem setting?_of_last {before after : Environment} {last : Variable} {key : Text}
    {c : Contribution} (said : last.contribution? = some c) (isUnder : last.isUnder key = true)
    (lastly : ∀ v ∈ after, v.isUnder key = false) :
    setting? (before ++ last :: after) key = Contribution.within (setting? before key) c := by
  have hunder : under (before ++ last :: after) key = before.under key ++ [last] := by
    rw [under_append, under_cons_of_isUnder isUnder, under_eq_nil_of_none lastly]
  rw [setting?, hunder, List.filterMap_append, List.foldl_append, setting?]
  simp [said]

end Environment

section LastWord

variable (before : Environment) {after : Environment} {last : Variable} {key : Text}
  {inner : List Text} {value : Value} (path : last.path? = some (key :: inner))
  (read : last.read? = some value) (lastly : ∀ v ∈ after, v.isUnder key = false)
include path

theorem Variable.isUnder_of_path : last.isUnder key = true := by
  simp [Variable.isUnder, path]

include read

theorem Variable.contribution?_of_path : last.contribution? = some ⟨key :: inner, value⟩ := by
  simp [Variable.contribution?, path, read]

include lastly

theorem Environment.setting?_last_word :
    setting? (before ++ last :: after) key =
      some ((nest inner value).over (setting? before key)) :=
  setting?_of_last (Variable.contribution?_of_path path read) (Variable.isUnder_of_path path) lastly

/-- A plain value given to the key itself makes earlier variables under the key void, and the
other keys never heard of them. -/
theorem Environment.setting?_without (plain : (nest inner value).isDict = false) (other : Text) :
    setting? (before ++ last :: after) other =
      setting? (before.without key ++ last :: after) other := by
  by_cases h : key = other
  · subst h
    rw [setting?_last_word _ path read lastly, setting?_last_word _ path read lastly,
      Value.over_of_plain plain, Value.over_of_plain plain]
  · apply setting?_congr
    rw [under_append, under_append, under_without_of_ne before h]

end LastWord

/-- Whatever its first key is, it would have to stand for nothing. -/
theorem policyOf_dict (entries : Entries) : ∃ error, policyOf (.dict entries) = .error error := by
  cases entries with
  | nil => exact ⟨_, rfl⟩
  | cons entry rest =>
    obtain ⟨name, value⟩ := entry
    rw [policyOf]
    cases Policy.ofName? name with
    | none => exact ⟨_, rfl⟩
    | some policy => exact ⟨_, rfl⟩

end AttributePrinter.Setting

namespace AttributePrinter.Config

open Setting

theorem ofFields_of_capacity_dict (entries : Entries) (policy? : Option Value) :
    ∃ error, ofFields (some (.dict entries)) policy? = .error (.invalid error) :=
  ⟨_, rfl⟩

/-- The capacity may be at fault as well, and then it is reported. -/
theorem ofFields_of_policy_dict (capacity? : Option Value) (entries : Entries) :
    ∃ error, ofFields capacity? (some (.dict entries)) = .error (.invalid error) := by
  obtain ⟨error, hpolicy⟩ := policyOf_dict entries
  rw [ofFields]
  cases orStandard standard.capacity capacityOf capacity? with
  | error first => exact ⟨first, rfl⟩
  | ok capacity => exact ⟨error, by simp only [orStandard, hpolicy]⟩

theorem load_of_dict {env : Environment} (readable : env.Readable) {key : Text}
    (field : key = capacityKey ∨ key = policyKey) {value : Value}
    (set : env.setting? key = some value) (isDict : value.isDict = true) :
    ∃ error, load env = .error (.rejected (.invalid error)) := by
  obtain ⟨entries, rfl⟩ := Value.isDict_iff.mp isDict
  have invalid : ∃ error, ofFields (env.setting? capacityKey) (env.setting? policyKey) =
      .error (.invalid error) := by
    rcases field with rfl | rfl
    · rw [set]
      exact ofFields_of_capacity_dict entries _
    · rw [set]
      exact ofFields_of_policy_dict _ entries
  obtain ⟨error, herror⟩ := invalid
  exact ⟨error, by rw [load_eq_ofFields readable, herror]; rfl⟩

/-- The last variable under the key of a field has the last word on it. If its path is the key and
its value plain, every earlier variable under the key can be left out, whatever it says and however
it spells the key. If its path is longer or its value a dictionary, there is no configuration. -/
theorem load_settled_by_last {before after : Environment} {last : Variable} {key : Text}
    {inner : List Text} {value : Value}
    (readable : Environment.Readable (before ++ last :: after))
    (field : key = capacityKey ∨ key = policyKey) (path : last.path? = some (key :: inner))
    (read : last.read? = some value) (lastly : ∀ v ∈ after, v.isUnder key = false) :
    (inner = [] → value.isDict = false →
      load (before ++ last :: after) = load (before.without key ++ last :: after)) ∧
    (inner ≠ [] ∨ value.isDict = true →
      ∃ error, load (before ++ last :: after) = .error (.rejected (.invalid error))) := by
  constructor
  · rintro rfl plain
    have readable' : Environment.Readable (before.without key ++ last :: after) := by
      refine readable.of_subset fun v hv => ?_
      rcases List.mem_append.mp hv with hbefore | hlater
      · exact List.mem_append_left _ (List.mem_filter.mp hbefore).1
      · exact List.mem_append_right before hlater
    -- Both fields find the same settings: the one under `key` is that of `last`, and the variables
    -- of the other are all still there.
    have same := Environment.setting?_without before path read lastly plain
    rw [load_eq_ofFields readable, load_eq_ofFields readable', same capacityKey, same policyKey]
  · intro dict
    -- What there was before is not looked at: laid over anything, a dictionary stays one.
    have set := Environment.setting?_last_word before path read lastly
    refine load_of_dict readable field set ?_
    rw [Value.isDict_over]
    exact Value.isDict_nest_iff.mpr dict

/-- A capacity of two parts, with a policy between them. -/
def partedCapacity : Environment :=
  [⟨asciiBytes "GETXATTR_BUFFER_CAPACITY.SOFT", asciiBytes "7"⟩,
    ⟨asciiBytes "getxattr_exit_policy", asciiBytes "strict"⟩,
    ⟨asciiBytes "GetXattr_Buffer_Capacity", asciiBytes "\x7bhard=9\x7d"⟩]

def plainCapacity : Variable :=
  ⟨asciiBytes " GETXATTR_buffer_capacity ", asciiBytes "16"⟩

/-- The two parts are no capacity, but a number behind them is. -/
theorem load_plainCapacity :
    (∃ error, load partedCapacity = .error (.rejected (.invalid error))) ∧
      load (partedCapacity ++ [plainCapacity]) = .ok ⟨16, .strict⟩ := by
  have readable : Environment.Readable (partedCapacity ++ [plainCapacity]) := by decide +kernel
  constructor
  · have readableParts : Environment.Readable (partedCapacity.take 2 ++ [partedCapacity[2]]) :=
      readable.of_subset fun v hv => List.mem_append_left _ hv
    have path : partedCapacity[2].path? = some [capacityKey] := by decide +kernel
    have read : partedCapacity[2].read?.map Value.isDict = some true := by decide +kernel
    obtain ⟨hard, read, isDict⟩ := Option.map_eq_some_iff.mp read
    exact (load_settled_by_last readableParts (Or.inl rfl) path read (by simp)).2 (Or.inr isDict)
  · have path : plainCapacity.path? = some [capacityKey] := by decide +kernel
    have read : plainCapacity.read?.map Value.isDict = some false := by decide +kernel
    obtain ⟨number, read, plain⟩ := Option.map_eq_some_iff.mp read
    rw [(load_settled_by_last readable (Or.inl rfl) path read (by simp)).1 rfl plain]
    decide +kernel

end AttributePrinter.Config
