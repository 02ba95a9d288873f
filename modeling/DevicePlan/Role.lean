namespace DevicePlan

/-- A logical function of a training job. A role runs in a pool, never on a device of its own. -/
inductive Role where
  | actorRollout
  | critic
  | rewardModel
  | reference
deriving DecidableEq, Repr

namespace Role

def all : List Role := [actorRollout, critic, rewardModel, reference]

def index : Role → Nat
  | actorRollout => 0
  | critic => 1
  | rewardModel => 2
  | reference => 3

instance : LT Role := ⟨fun a b => a.index < b.index⟩

instance (a b : Role) : Decidable (a < b) := inferInstanceAs (Decidable (a.index < b.index))

def name : Role → String
  | actorRollout => "actor_rollout"
  | critic => "critic"
  | rewardModel => "reward_model"
  | reference => "reference"

def ofName? (text : String) : Option Role :=
  all.find? fun role => role.name == text

def below (role : Role) : List Role :=
  all.filter (· < role)

theorem mem_all (role : Role) : role ∈ all := by
  cases role <;> decide

theorem name_of_ofName? {text : String} {role : Role} (h : ofName? text = some role) :
    role.name = text := by
  simpa using List.find?_some h

@[simp]
theorem ofName?_name (role : Role) : ofName? role.name = some role := by
  cases role <;> decide

@[simp]
theorem name_inj {role other : Role} : role.name = other.name ↔ role = other := by
  constructor
  · intro same
    rw [← Option.some.injEq, ← ofName?_name role, ← ofName?_name other, same]
  · rintro rfl
    rfl

theorem ofName?_eq_some_iff {text : String} {role : Role} :
    ofName? text = some role ↔ text = role.name := by
  constructor
  · intro found
    exact (name_of_ofName? found).symm
  · rintro rfl
    exact ofName?_name role

end Role

end DevicePlan
