import DevicePlan.Event

namespace DevicePlan

namespace Layout

def runColocated (cluster : Cluster) (name : String) : Run Layout :=
  .reporting (.ok (colocated cluster name)) fun _ =>
    .builtColocated name cluster.nodes cluster.devicesPerNode

def runSplit (cluster : Cluster) (first second : String) : Run Layout :=
  .reporting (split cluster first second) fun _ =>
    .builtSplit first (firstShare cluster.devicesPerNode) second
      (secondShare cluster.devicesPerNode) cluster.nodes

def runAddAuxiliary (layout : Layout) (name : String) (devicesPerNode nodes : UInt32) :
    Run Layout :=
  .reporting (layout.addAuxiliary name devicesPerNode nodes) fun _ =>
    .addedAuxiliary name devicesPerNode nodes

end Layout

namespace Bindings

/-- What binding a role reports: whether the role moves away from another pool. -/
def attachEvent (bindings : Bindings) (role : Role) (pool : String) : Event :=
  match bindings.get role with
  | some previous => if previous = pool then .bound role pool else .rebound role previous pool
  | none => .bound role pool

def runAttach (bindings : Bindings) (layout : Layout) (role : Role) (pool : String) :
    Run Bindings :=
  .reporting (bindings.attach layout role pool) fun _ => bindings.attachEvent role pool

def runAttachAll (bindings : Bindings) (layout : Layout) : List (Role × String) → Run Bindings
  | [] => pure bindings
  | (role, pool) :: rest => do
    let bindings ← bindings.runAttach layout role pool
    bindings.runAttachAll layout rest

end Bindings

namespace Plan

def runFreeze (layout : Layout) (bindings : Bindings) : Run Plan :=
  .reporting (freeze layout bindings) fun plan =>
    .frozen plan.cluster plan.pools plan.bindings.size

end Plan

namespace Policy

def colocatedRoles : List Role := [.actorRollout, .critic, .reference]

def primaryBindings (policy : Policy) (names : PoolNames) : Bindings :=
  match policy.sharing with
  | .colocated => .colocated names.global colocatedRoles
  | .split => .split names.actor names.critic

def runPrimary (policy : Policy) (cluster : Cluster) (names : PoolNames) : Run Layout :=
  match policy.sharing with
  | .colocated => Layout.runColocated cluster names.global
  | .split => Layout.runSplit cluster names.actor names.critic

def runAuxiliary (policy : Policy) (names : PoolNames) (layout : Layout) (bindings : Bindings) :
    Run (Layout × Bindings) :=
  match policy.auxiliary with
  | none => pure (layout, bindings)
  | some request => do
    let layout ← layout.runAddAuxiliary names.reward request.devicesPerNode request.nodes
    if request.bindRewardModel then
      let bindings ← bindings.runAttach layout .rewardModel names.reward
      pure (layout, bindings)
    else
      pure (layout, bindings)

end Policy

def place (cluster : Cluster) (policy : Policy) (names : PoolNames)
    (overrides : List (Role × String)) : Run Plan := do
  let layout ← policy.runPrimary cluster names
  let (layout, bindings) ← policy.runAuxiliary names layout (policy.primaryBindings names)
  let bindings ← bindings.runAttachAll layout overrides
  .report (.assembled policy layout.pools.length overrides.length)
  Plan.runFreeze layout bindings

end DevicePlan
