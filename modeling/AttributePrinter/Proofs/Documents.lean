import AttributePrinter.Config.Document

/-!
# Configurations in documents

A document of a configuration is an object with its two fields, among whatever other members, or an
array of exactly the two values. Decoding accepts the documents of a configuration and nothing else.
Encoding gives the object of the two fields alone, and decoding that gives the configuration back.
The limits of a buffer play no part here: every machine word is a capacity.
-/

namespace AttributePrinter

/-- A whole number fits into 64 bits, with a sign or without one, and an object has each of its keys
once, at every depth. -/
inductive Json.Proper : Json → Prop where
  | null : Proper .null
  | bool (b : Bool) : Proper (.bool b)
  | integer {i : Int} (least : -(Int.pow 2 63) ≤ i) (most : i < Int.pow 2 64) : Proper (.integer i)
  | fraction (x : Binary64) : Proper (.fraction x)
  | text (t : Text) : Proper (.text t)
  | array {items : List Json} (proper : ∀ item ∈ items, Proper item) : Proper (.array items)
  | object {members : Json.Members} (distinct : (members.map (·.1)).Nodup)
    (proper : ∀ m ∈ members, Proper m.2) : Proper (.object members)

theorem Json.Members.lastOfEach_sublist (members : Json.Members) :
    members.lastOfEach.Sublist members := by
  fun_induction lastOfEach members with
  | case1 => exact .slnil
  | case2 key value rest _ ih => exact ih.cons _
  | case3 key value rest _ ih => exact ih.cons_cons _

theorem Json.Members.distinct_lastOfEach (members : Json.Members) :
    (members.lastOfEach.map (·.1)).Nodup := by
  fun_induction lastOfEach members with
  | case1 => exact List.nodup_nil
  | case2 key value rest _ ih => exact ih
  | case3 key value rest fresh ih =>
    refine List.nodup_cons.mpr ⟨fun h => fresh ?_, ih⟩
    obtain ⟨m, hm, same⟩ := List.mem_map.mp h
    exact List.any_eq_true.mpr ⟨m, (lastOfEach_sublist rest).mem hm, decide_eq_true same⟩

/-- Members with proper values make up a proper object, whether their keys are distinct or not. -/
theorem Json.proper_ofMembers {members : Json.Members} (proper : ∀ m ∈ members, Proper m.2) :
    (Json.ofMembers members).Proper :=
  .object members.distinct_lastOfEach fun m hm => proper m (members.lastOfEach_sublist.mem hm)

theorem Json.Members.find?_eq_some_iff {members : Json.Members}
    (distinct : (members.map (·.1)).Nodup) {key : Text} {value : Json} :
    members.find? key = some value ↔ (key, value) ∈ members := by
  induction members with
  | nil => simp [find?]
  | cons m rest ih =>
    obtain ⟨k, v⟩ := m
    obtain ⟨fresh, distinct⟩ := List.nodup_cons.mp distinct
    have hrest := ih distinct
    by_cases same : k = key
    · subst same
      have habsent : (k, value) ∉ rest := fun h =>
        fresh (List.mem_map.mpr ⟨_, h, rfl⟩)
      simp [find?, habsent, eq_comm]
    · have hskip : find? ((k, v) :: rest) key = find? rest key := by simp [find?, same]
      rw [hskip, hrest]
      simp [Ne.symm same]

/-- The name as a text, or an object that has it as its only key and nothing under it. -/
def Policy.NamedBy (policy : Policy) (json : Json) : Prop :=
  json = .text policy.name.toList ∨ json = .object [(policy.name.toList, .null)]

namespace Config

/-- The documents of a configuration. -/
inductive DocumentOf (config : Config) : Json → Prop where
  | object {members : Json.Members} {policy : Json}
    (capacity : (capacityKey, .integer config.capacity) ∈ members)
    (named : (policyKey, policy) ∈ members) (names : config.policy.NamedBy policy) :
    DocumentOf config (.object members)
  | array {policy : Json} (names : config.policy.NamedBy policy) :
    DocumentOf config (.array [.integer config.capacity, policy])

theorem decodeCapacity_eq_ok_iff {json : Json} {n : Nat} :
    decodeCapacity json = .ok n ↔ json = .integer n := by
  constructor
  · intro h
    cases json with
    | integer i =>
      rw [decodeCapacity] at h
      split at h
      · rename_i nonneg
        cases h
        rw [Int.toNat_of_nonneg nonneg]
      · cases h
    | null | bool | fraction | text | array | object => cases h
  · rintro rfl
    rw [decodeCapacity, if_pos (Int.natCast_nonneg n)]
    rfl

theorem decodePolicyName_eq_ok_iff {name : Text} {policy : Policy} :
    decodePolicyName name = .ok policy ↔ name = policy.name.toList := by
  rw [← Policy.ofName?_eq_some_iff, decodePolicyName]
  cases Policy.ofName? name <;> simp

theorem decodePolicy_eq_ok_iff {json : Json} {policy : Policy} :
    decodePolicy json = .ok policy ↔ policy.NamedBy json := by
  constructor
  · intro h
    unfold decodePolicy at h
    split at h
    · exact Or.inl (by rw [decodePolicyName_eq_ok_iff.mp h])
    · rename_i name value
      split at h
      · cases h
      · rename_i named hnamed
        cases h
        exact Or.inr (by rw [decodePolicyName_eq_ok_iff.mp hnamed])
      · cases h
    · cases h
    · cases h
  · have hnamed := decodePolicyName_eq_ok_iff.mpr (Eq.refl policy.name.toList)
    rintro (rfl | rfl)
    · exact hnamed
    · simp only [decodePolicy, hnamed]

theorem decodeMember_eq_some_iff {α : Type} {decode : Json → Except DecodeError α}
    {found : Option Json} {a : α} :
    decodeMember decode found = .ok (some a) ↔ ∃ json, found = some json ∧ decode json = .ok a := by
  cases found with
  | none => simp [decodeMember]
  | some json => cases hjson : decode json <;> simp [decodeMember, Except.map, hjson]

theorem decodeMembers_eq_ok_iff {members : Json.Members} {config : Config} :
    decodeMembers members = .ok config ↔
      members.find? capacityKey = some (.integer config.capacity) ∧
        ∃ policy, members.find? policyKey = some policy ∧ config.policy.NamedBy policy := by
  have hcapacity : members.find? capacityKey = some (.integer config.capacity) ↔
      decodeMember decodeCapacity (members.find? capacityKey) = .ok (some config.capacity) := by
    simp [decodeMember_eq_some_iff, decodeCapacity_eq_ok_iff]
  have hpolicy : (∃ policy, members.find? policyKey = some policy ∧ config.policy.NamedBy policy) ↔
      decodeMember decodePolicy (members.find? policyKey) = .ok (some config.policy) := by
    simp only [decodeMember_eq_some_iff, decodePolicy_eq_ok_iff]
  rw [hcapacity, hpolicy, decodeMembers]
  constructor
  · intro h
    split at h
    · cases h
    · rename_i hfirst
      split at h
      · cases h
      · cases h
      · cases h
      · rename_i hsecond
        cases h
        exact ⟨hfirst, hsecond⟩
  · rintro ⟨hfirst, hsecond⟩
    simp only [hfirst, hsecond]

theorem decodeItems_eq_ok_iff {items : List Json} {config : Config} :
    decodeItems items = .ok config ↔
      ∃ policy, items = [.integer config.capacity, policy] ∧ config.policy.NamedBy policy := by
  constructor
  · intro h
    unfold decodeItems at h
    split at h
    · cases h
    split at h
    · cases h
    · cases h
    rename_i hcapacity
    split at h
    · cases h
    · rename_i hpolicy
      cases h
      rw [decodeCapacity_eq_ok_iff.mp hcapacity]
      exact ⟨_, rfl, decodePolicy_eq_ok_iff.mp hpolicy⟩
    · cases h
  · rintro ⟨policy, rfl, names⟩
    have hcapacity := decodeCapacity_eq_ok_iff.mpr (Eq.refl (Json.integer config.capacity))
    have hpolicy := decodePolicy_eq_ok_iff.mpr names
    simp only [decodeItems, hcapacity, hpolicy]

theorem decode_encode (config : Config) : decode (encode config) = .ok config :=
  have hmembers : decodeMembers [(capacityKey, .integer config.capacity),
      (policyKey, .text config.policy.name.toList)] = .ok config :=
    decodeMembers_eq_ok_iff.mpr ⟨rfl, _, rfl, Or.inl rfl⟩
  hmembers

theorem le_of_proper_capacity {n : Nat} (proper : Json.Proper (.integer n)) :
    n ≤ 18446744073709551615 := by
  cases proper with
  | integer least most =>
    have hsmall : (n : Int) < 18446744073709551616 := most
    omega

/-- Decoding accepts exactly the documents of a configuration whose capacity is a machine word, and
takes from each what it is a document of. A configuration is encoded as an object of its two fields
alone, whether within the limits of a buffer or not, and decoded from it again. -/
theorem decode_eq_ok_iff_documentOf {json : Json} (proper : json.Proper) (config : Config) :
    (decode json = .ok config ↔
      config.capacity ≤ 18446744073709551615 ∧ DocumentOf config json) ∧
    encode config = .object [(capacityKey, .integer config.capacity),
      (policyKey, .text config.policy.name.toList)] ∧
    decode (encode config) = .ok config := by
  refine ⟨?_, rfl, decode_encode config⟩
  cases proper with
  | @object members distinct proper =>
    have hdecode : decode (.object members) = decodeMembers members := rfl
    rw [hdecode, decodeMembers_eq_ok_iff, Json.Members.find?_eq_some_iff distinct]
    simp only [Json.Members.find?_eq_some_iff distinct]
    constructor
    · rintro ⟨capacity, policy, named, names⟩
      exact ⟨le_of_proper_capacity (proper _ capacity), .object capacity named names⟩
    · rintro ⟨-, document⟩
      cases document with
      | object capacity named names => exact ⟨capacity, _, named, names⟩
  | @array items proper =>
    have hdecode : decode (.array items) = decodeItems items := rfl
    rw [hdecode, decodeItems_eq_ok_iff]
    constructor
    · rintro ⟨policy, rfl, names⟩
      exact ⟨le_of_proper_capacity (proper _ List.mem_cons_self), .array names⟩
    · rintro ⟨-, document⟩
      cases document with
      | array names => exact ⟨_, rfl, names⟩
  | null | bool | integer | fraction | text =>
    constructor
    · intro h
      cases h
    · rintro ⟨-, document⟩
      cases document

/-- A capacity given twice, the second time beyond the limit of a buffer, and the policy as an
object. -/
def twiceGiven : Json :=
  .ofMembers [(capacityKey, .array [.null, .integer (-1)]),
    (policyKey, .object [("strict".toList, .null)]), (capacityKey, .integer 70000)]

theorem decode_twiceGiven :
    twiceGiven.Proper ∧ decode twiceGiven = .ok ⟨70000, .strict⟩ ∧
      decode (encode ⟨70000, .strict⟩) = .ok ⟨70000, .strict⟩ := by
  have proper : twiceGiven.Proper := by
    refine Json.proper_ofMembers
      (List.forall_mem_cons.mpr ⟨?_, List.forall_mem_cons.mpr ⟨?_, ?_⟩⟩)
    · exact .array (List.forall_mem_cons.mpr
        ⟨.null, List.forall_mem_singleton.mpr (.integer (by decide) (by decide))⟩)
    · exact .object (by decide) (List.forall_mem_singleton.mpr .null)
    · exact List.forall_mem_singleton.mpr (.integer (by decide) (by decide))
  have document : DocumentOf ⟨70000, .strict⟩ twiceGiven :=
    .object (List.mem_cons_of_mem _ List.mem_cons_self) List.mem_cons_self (Or.inr rfl)
  obtain ⟨hdecode, -, hagain⟩ := decode_eq_ok_iff_documentOf proper ⟨70000, .strict⟩
  exact ⟨proper, hdecode.mpr ⟨by decide, document⟩, hagain⟩

end Config

end AttributePrinter
