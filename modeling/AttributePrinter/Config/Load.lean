import AttributePrinter.Config.Extract

/-!
# Loading the configuration

The settings of the environment, extracted and then checked: a buffer holds at least one byte
and at most the largest value of an attribute. An environment whose settings break down on being
read has no configuration and no error either.
-/

namespace AttributePrinter

inductive ConfigError where
  | invalid (error : Setting.Error)
  | zeroCapacity
  | capacityTooLarge (capacity : Nat)
  deriving DecidableEq, Repr

def ConfigError.message : ConfigError → String
  | .invalid error => s!"Failed to set configuration: {error.message}"
  | .zeroCapacity => "Buffer capacity must be at least one byte"
  | .capacityTooLarge capacity =>
    s!"Buffer capacity of {capacity} bytes exceeds the {greatestCapacity} byte attribute size limit"

inductive LoadFailure where
  | breakdown
  | rejected (error : ConfigError)
  deriving DecidableEq, Repr

instance decidableEqExcept {ε α : Type} [DecidableEq ε] [DecidableEq α] :
    DecidableEq (Except ε α)
  | .ok a, .ok b => decidable_of_iff (a = b) (by simp)
  | .error a, .error b => decidable_of_iff (a = b) (by simp)
  | .ok _, .error _ | .error _, .ok _ => isFalse (by simp)

namespace Config

def check (config : Config) : Except ConfigError Config :=
  if config.capacity = 0 then .error .zeroCapacity
  else if greatestCapacity < config.capacity then .error (.capacityTooLarge config.capacity)
  else .ok config

def ofSettings (settings : Setting.Entries) : Except ConfigError Config :=
  match settings.config with
  | .error error => .error (.invalid error)
  | .ok config => config.check

def load (env : Setting.Environment) : Except LoadFailure Config :=
  match env.settings? with
  | none => .error .breakdown
  | some settings => (ofSettings settings).mapError .rejected

theorem check_eq_ok_iff {config checked : Config} :
    config.check = .ok checked ↔
      checked = config ∧ 0 < config.capacity ∧ config.capacity ≤ greatestCapacity := by
  unfold check
  split
  · simp_all
  · split
    · rename_i hlarge
      constructor
      · intro h
        cases h
      · rintro ⟨_, _, hfits⟩
        exact absurd hlarge (Nat.not_lt.mpr hfits)
    · rename_i hzero hfits
      constructor
      · rintro ⟨⟩
        exact ⟨rfl, Nat.pos_of_ne_zero hzero, Nat.not_lt.mp hfits⟩
      · rintro ⟨rfl, _⟩
        rfl

theorem check_of_zero {config : Config} (h : config.capacity = 0) :
    config.check = .error .zeroCapacity := by
  rw [check, if_pos h]

theorem check_of_large {config : Config} (h : greatestCapacity < config.capacity) :
    config.check = .error (.capacityTooLarge config.capacity) := by
  have hzero : config.capacity ≠ 0 := Nat.ne_of_gt (Nat.lt_of_le_of_lt (Nat.zero_le _) h)
  rw [check, if_neg hzero, if_pos h]

theorem check_eq_zeroCapacity_iff {config : Config} :
    config.check = .error .zeroCapacity ↔ config.capacity = 0 := by
  refine ⟨fun h => ?_, check_of_zero⟩
  unfold check at h
  split at h
  · assumption
  · split at h <;> cases h

theorem check_eq_capacityTooLarge_iff {config : Config} {n : Nat} :
    config.check = .error (.capacityTooLarge n) ↔
      n = config.capacity ∧ greatestCapacity < config.capacity := by
  constructor
  · intro h
    unfold check at h
    split at h
    · cases h
    · split at h
      · cases h
        exact ⟨rfl, by assumption⟩
      · cases h
  · rintro ⟨rfl, hlarge⟩
    exact check_of_large hlarge

end Config

end AttributePrinter
