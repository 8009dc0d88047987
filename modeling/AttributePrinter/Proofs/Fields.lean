import AttributePrinter.Config.Load
import AttributePrinter.Proofs.Settings

/-!
# The two fields of a configuration

Each field is loaded from the variables under its own key. The whole configuration follows from
the two fields taken alone: an error in a setting comes before an error in a limit, and among the
settings the capacity comes before the policy. No other variable plays a part.
-/

namespace AttributePrinter.Config

open Setting

/-- The configuration of two settings, either of which may be missing. -/
def ofFields (capacity? policy? : Option Value) : Except ConfigError Config :=
  match orStandard standard.capacity capacityOf capacity? with
  | .error error => .error (.invalid error)
  | .ok capacity =>
    match orStandard standard.policy policyOf policy? with
    | .error error => .error (.invalid error)
    | .ok policy => check { capacity, policy }

theorem load_eq_ofFields {env : Environment} (readable : env.Readable) :
    load env =
      (ofFields (env.setting? capacityKey) (env.setting? policyKey)).mapError .rejected := by
  obtain ⟨entries, hentries, hfind⟩ := Environment.exists_settings readable
  rw [load, hentries]
  simp only [ofSettings, Entries.config, hfind, ofFields]
  cases orStandard standard.capacity capacityOf (env.setting? capacityKey) with
  | error error => rfl
  | ok capacity =>
    cases orStandard standard.policy policyOf (env.setting? policyKey) with
    | error error => rfl
    | ok policy => rfl

/-- What loading gives if it gives `ofCapacity` for the variables of the capacity alone and
`ofPolicy` for those of the policy alone. -/
def fieldByField (ofCapacity ofPolicy : Except LoadFailure Config) : Except LoadFailure Config :=
  match ofCapacity, ofPolicy with
  | .error (.rejected (.invalid error)), _ => .error (.rejected (.invalid error))
  | _, .error (.rejected (.invalid error)) => .error (.rejected (.invalid error))
  | .error failure, _ => .error failure
  | .ok _, .error failure => .error failure
  | .ok withCapacity, .ok withPolicy => .ok ⟨withCapacity.capacity, withPolicy.policy⟩

theorem check_standard (policy : Policy) :
    check ⟨standard.capacity, policy⟩ = .ok ⟨standard.capacity, policy⟩ := by
  have hpos : 0 < defaultCapacity := by decide
  have hfits : defaultCapacity ≤ greatestCapacity := by decide
  exact check_eq_ok_iff.mpr ⟨rfl, hpos, hfits⟩

theorem orStandard_none {α : Type} (value : α) (read : Value → Except Error α) :
    orStandard value read none = .ok value := rfl

/-- The limits of a capacity do not depend on the policy beside it, and the standard capacity is
within them. -/
theorem ofFields_eq_fieldByField (capacity? policy? : Option Value) :
    (ofFields capacity? policy?).mapError .rejected =
      fieldByField ((ofFields capacity? none).mapError .rejected)
        ((ofFields none policy?).mapError .rejected) := by
  simp only [ofFields, orStandard_none]
  generalize orStandard standard.capacity capacityOf capacity? = c
  generalize orStandard standard.policy policyOf policy? = p
  cases c with
  | error error => rfl
  | ok capacity =>
    rcases Nat.eq_zero_or_pos capacity with hzero | hpos
    · have hcheck : ∀ policy, check ⟨capacity, policy⟩ = .error .zeroCapacity :=
        fun policy => check_of_zero hzero
      cases p <;> simp only [hcheck, check_standard] <;> rfl
    rcases Nat.lt_or_ge greatestCapacity capacity with hlarge | hfits
    · have hcheck : ∀ policy, check ⟨capacity, policy⟩ = .error (.capacityTooLarge capacity) :=
        fun policy => check_of_large hlarge
      cases p <;> simp only [hcheck, check_standard] <;> rfl
    · have hcheck : ∀ policy, check ⟨capacity, policy⟩ = .ok ⟨capacity, policy⟩ :=
        fun policy => check_eq_ok_iff.mpr ⟨rfl, hpos, hfits⟩
      cases p <;> simp only [hcheck, check_standard] <;> rfl

theorem capacityKey_ne_policyKey : capacityKey ≠ policyKey := by decide

section Load

variable {env : Environment} (readable : env.Readable)
include readable

theorem load_under_capacity :
    load (env.under capacityKey) =
      (ofFields (env.setting? capacityKey) none).mapError .rejected := by
  rw [load_eq_ofFields (readable.under capacityKey), Environment.setting?_under,
    Environment.setting?_under_of_ne env capacityKey_ne_policyKey]

theorem load_under_policy :
    load (env.under policyKey) = (ofFields none (env.setting? policyKey)).mapError .rejected := by
  rw [load_eq_ofFields (readable.under policyKey), Environment.setting?_under,
    Environment.setting?_under_of_ne env capacityKey_ne_policyKey.symm]

/-- The variables of the policy alone meet every limit. -/
theorem load_under_policy_cases :
    (∃ config, load (env.under policyKey) = .ok config) ∨
      ∃ error, load (env.under policyKey) = .error (.rejected (.invalid error)) := by
  rw [load_under_policy readable, ofFields, orStandard_none]
  cases orStandard standard.policy policyOf (env.setting? policyKey) with
  | error error => exact Or.inr ⟨error, rfl⟩
  | ok policy =>
    simp only [check_standard]
    exact Or.inl ⟨_, rfl⟩

theorem load_ne_breakdown : load env ≠ .error .breakdown := by
  rw [load_eq_ofFields readable]
  cases ofFields (env.setting? capacityKey) (env.setting? policyKey) with
  | error error =>
    intro h
    cases h
  | ok config =>
    intro h
    cases h

end Load

/-- An environment in which nothing breaks down loads field by field. Of the variables under one
key alone those of the policy meet every limit, and nothing breaks down either. Environments with
the same variables under the two keys load alike, whatever else they hold and wherever. -/
theorem load_eq_fieldByField {env : Environment} (readable : env.Readable) :
    let ofCapacity := load (env.under capacityKey)
    let ofPolicy := load (env.under policyKey)
    load env = fieldByField ofCapacity ofPolicy ∧
      ofCapacity ≠ .error .breakdown ∧
      ((∃ config, ofPolicy = .ok config) ∨
        ∃ error, ofPolicy = .error (.rejected (.invalid error))) ∧
      ∀ other : Environment, other.Readable → other.under capacityKey = env.under capacityKey →
        other.under policyKey = env.under policyKey → load other = load env := by
  intro ofCapacity ofPolicy
  refine ⟨?_, load_ne_breakdown (readable.under capacityKey), load_under_policy_cases readable, ?_⟩
  · simp only [ofCapacity, ofPolicy]
    rw [load_eq_ofFields readable, ofFields_eq_fieldByField, load_under_capacity readable,
      load_under_policy readable]
  · intro other hother hcapacity hpolicy
    rw [load_eq_ofFields hother, load_eq_ofFields readable, Environment.setting?_congr hcapacity,
      Environment.setting?_congr hpolicy]

/-- A capacity beyond the limit, a key of neither field, and a policy that there is none of. -/
def twiceWrong : Environment :=
  [⟨asciiBytes "GETXATTR_BUFFER_CAPACITY", asciiBytes "70000"⟩,
    ⟨asciiBytes "GETXATTR_LIMIT.SOFT", asciiBytes "[1,2]"⟩,
    ⟨asciiBytes " getxattr_exit_policy", asciiBytes "maybe"⟩]

/-- The unknown policy is reported before the limit, though it stands last. -/
theorem load_twiceWrong :
    let unknown : LoadFailure := .rejected (.invalid ⟨[policyKey], .unknownPolicy "maybe".toList⟩)
    twiceWrong.Readable ∧
      load (twiceWrong.under capacityKey) = .error (.rejected (.capacityTooLarge 70000)) ∧
      load (twiceWrong.under policyKey) = .error unknown ∧ load twiceWrong = .error unknown := by
  intro unknown
  have readable : twiceWrong.Readable := by decide +kernel
  have hcapacity : load (twiceWrong.under capacityKey) =
      .error (.rejected (.capacityTooLarge 70000)) := by decide +kernel
  have hpolicy : load (twiceWrong.under policyKey) = .error unknown := by decide +kernel
  obtain ⟨hload, -⟩ := load_eq_fieldByField readable
  rw [hcapacity, hpolicy] at hload
  exact ⟨readable, hcapacity, hpolicy, hload⟩

end AttributePrinter.Config
