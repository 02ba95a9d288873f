import DevicePlan.Outcome
import DevicePlan.Plan
import DevicePlan.Policy

namespace DevicePlan

inductive Level where
  | debug
  | info
  | warn
deriving DecidableEq

def Level.name : Level → String
  | debug => "debug"
  | info => "info"
  | warn => "warn"

inductive Event where
  | builtColocated (pool : String) (nodes devicesPerNode : UInt32)
  | builtSplit (first : String) (firstDevices : UInt32) (second : String) (secondDevices : UInt32)
    (nodes : UInt32)
  | addedAuxiliary (pool : String) (devicesPerNode nodes : UInt32)
  /-- A role that was free, or on this pool already, is bound. -/
  | bound (role : Role) (pool : String)
  | rebound (role : Role) (previous pool : String)
  | assembled (policy : Policy) (pools overrides : Nat)
  | frozen (cluster : Cluster) (pools : List Pool) (roles : Nat)
deriving DecidableEq

inductive Event.Field where
  | count (value : Nat)
  | text (value : String)
deriving DecidableEq

namespace Event

def level : Event → Level
  | rebound .. => .warn
  | frozen .. => .info
  | _ => .debug

def message : Event → String
  | builtColocated .. => "built colocated pool"
  | builtSplit .. => "built split pools"
  | addedAuxiliary .. => "added auxiliary pool"
  | bound .. => "role bound"
  | rebound .. => "role binding overridden"
  | assembled .. => "placement assembled"
  | frozen .. => "placement plan frozen"

def describePools (pools : List Pool) : String :=
  " ".intercalate (pools.map fun pool => pool.name ++ "=" ++ pool.describeRows)

def fields : Event → List (String × Field)
  | builtColocated pool nodes devicesPerNode =>
    [("pool", .text pool), ("nodes", .count nodes.toNat),
      ("devices_per_node", .count devicesPerNode.toNat)]
  | builtSplit first firstDevices second secondDevices nodes =>
    [("first", .text first), ("first_devices", .count firstDevices.toNat),
      ("second", .text second), ("second_devices", .count secondDevices.toNat),
      ("nodes", .count nodes.toNat)]
  | addedAuxiliary pool devicesPerNode nodes =>
    [("pool", .text pool), ("devices_per_node", .count devicesPerNode.toNat),
      ("nodes", .count nodes.toNat)]
  | bound role pool => [("role", .text role.name), ("pool", .text pool)]
  | rebound role previous pool =>
    [("role", .text role.name), ("from", .text previous), ("to", .text pool)]
  | assembled policy pools overrides =>
    [("policy", .text policy.describe), ("pools", .count pools), ("overrides", .count overrides)]
  | frozen cluster pools roles =>
    [("cluster", .text cluster.describe), ("pools", .text (describePools pools)),
      ("roles", .count roles)]

end Event

/-- An outcome with the events reported before it, so that a run which fails still shows what came
before the failure. -/
structure Run (α : Type) where
  events : List Event
  outcome : Except PlanError α

namespace Run

protected def bind {α β : Type} (run : Run α) (next : α → Run β) : Run β :=
  match run.outcome with
  | .error error => ⟨run.events, .error error⟩
  | .ok value => ⟨run.events ++ (next value).events, (next value).outcome⟩

instance : Monad Run where
  pure value := ⟨[], .ok value⟩
  bind := Run.bind

def reporting {α : Type} (outcome : Except PlanError α) (event : α → Event) : Run α :=
  match outcome with
  | .error error => ⟨[], .error error⟩
  | .ok value => ⟨[event value], .ok value⟩

def report (event : Event) : Run Unit := ⟨[event], .ok ()⟩

@[simp]
theorem outcome_pure {α : Type} (value : α) : (pure value : Run α).outcome = .ok value := rfl

@[simp]
theorem outcome_bind {α β : Type} (run : Run α) (next : α → Run β) :
    (run >>= next).outcome = run.outcome >>= fun value => (next value).outcome := by
  change (Run.bind run next).outcome = _
  unfold Run.bind
  cases run.outcome <;> rfl

theorem outcome_bind_eq_ok {α β : Type} {run : Run α} {next : α → Run β} {result : β} :
    (run >>= next).outcome = .ok result ↔
      ∃ value, run.outcome = .ok value ∧ (next value).outcome = .ok result := by
  rw [outcome_bind]
  exact bind_eq_ok

@[simp]
theorem outcome_reporting {α : Type} (outcome : Except PlanError α) (event : α → Event) :
    (reporting outcome event).outcome = outcome := by
  cases outcome <;> rfl

@[simp]
theorem outcome_report (event : Event) : (report event).outcome = .ok () := rfl

end Run

end DevicePlan
