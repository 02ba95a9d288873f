import DevicePlan.Layout

namespace DevicePlan

structure Bindings where
  actorRollout : Option String
  critic : Option String
  rewardModel : Option String
  reference : Option String
deriving DecidableEq

namespace Bindings

def empty : Bindings := ⟨none, none, none, none⟩

def get (bindings : Bindings) : Role → Option String
  | .actorRollout => bindings.actorRollout
  | .critic => bindings.critic
  | .rewardModel => bindings.rewardModel
  | .reference => bindings.reference

def isBound (bindings : Bindings) (role : Role) : Bool :=
  (bindings.get role).isSome

def bind (bindings : Bindings) (role : Role) (pool : String) : Bindings :=
  match role with
  | .actorRollout => { bindings with actorRollout := some pool }
  | .critic => { bindings with critic := some pool }
  | .rewardModel => { bindings with rewardModel := some pool }
  | .reference => { bindings with reference := some pool }

def attach (bindings : Bindings) (layout : Layout) (role : Role) (pool : String) :
    Except PlanError Bindings :=
  if layout.declares pool then
    .ok (bindings.bind role pool)
  else
    .error (.unknownPool role pool)

def toList (bindings : Bindings) : List (Role × String) :=
  Role.all.filterMap fun role => (bindings.get role).map (role, ·)

def size (bindings : Bindings) : Nat :=
  bindings.toList.length

def rolesOf (bindings : Bindings) (pool : String) : List Role :=
  Role.all.filter fun role => bindings.get role == some pool

def colocated (pool : String) (roles : List Role) : Bindings :=
  roles.foldl (fun bindings role => bindings.bind role pool) empty

/-- Actor and reference share a pool, because both serve the same rollouts. -/
def split (actorPool criticPool : String) : Bindings :=
  ((empty.bind .actorRollout actorPool).bind .reference actorPool).bind .critic criticPool

@[simp]
theorem get_empty (role : Role) : empty.get role = none := by
  cases role <;> rfl

@[simp]
theorem get_bind (bindings : Bindings) (role other : Role) (pool : String) :
    (bindings.bind role pool).get other =
      if other = role then some pool else bindings.get other := by
  cases role <;> cases other <;> rfl

theorem mem_toList {bindings : Bindings} {role : Role} {pool : String} :
    (role, pool) ∈ bindings.toList ↔ bindings.get role = some pool := by
  simp [toList, Role.mem_all]

theorem mem_rolesOf {bindings : Bindings} {role : Role} {pool : String} :
    role ∈ bindings.rolesOf pool ↔ bindings.get role = some pool := by
  simp [rolesOf, Role.mem_all]

theorem ext_get {a b : Bindings} (h : ∀ role, a.get role = b.get role) : a = b := by
  cases a
  cases b
  have actorRollout := h .actorRollout
  have critic := h .critic
  have rewardModel := h .rewardModel
  have reference := h .reference
  simp_all [get]

end Bindings

end DevicePlan
