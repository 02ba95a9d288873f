import DevicePlan.Role

namespace DevicePlan

def maxNodes : UInt32 := 65536

inductive ClusterFault where
  | noNodes
  | tooManyNodes (nodes : UInt32)
  | noDevices
  | tooNarrowToSplit (devicesPerNode : UInt32)
  | configuredNodes (value : Int64)
  | configuredDevices (value : Int64)
deriving DecidableEq

namespace ClusterFault

def message : ClusterFault → String
  | noNodes => "node count must be greater than 0"
  | tooManyNodes nodes =>
    s!"node count {nodes.toNat} exceeds the maximum of {maxNodes.toNat}"
  | noDevices => "devices per node must be greater than 0"
  | tooNarrowToSplit devicesPerNode =>
    s!"split placement needs at least 2 devices per node, got {devicesPerNode.toNat}"
  | configuredNodes value => s!"trainer.nnodes must be greater than 0, got {value.toInt}"
  | configuredDevices value =>
    s!"trainer.n_gpus_per_node must be greater than 0, got {value.toInt}"

end ClusterFault

inductive AuxiliaryFault where
  | noDevices (pool : String)
  | noNodes (pool : String)
  | tooManyNodes (pool : String) (nodes : UInt32)
  | emptyNode (pool : String)
  | configuredDevices (value : Int64)
  | configuredNodes (value : Int64)
deriving DecidableEq

namespace AuxiliaryFault

def message : AuxiliaryFault → String
  | noDevices pool => s!"pool {pool}: devices per node must be greater than 0"
  | noNodes pool => s!"pool {pool}: node count must be greater than 0"
  | tooManyNodes pool nodes =>
    s!"pool {pool}: node count {nodes.toNat} exceeds the maximum of {maxNodes.toNat}"
  | emptyNode pool => s!"pool {pool}: every node must hold at least one device"
  | configuredDevices value =>
    s!"reward_model.n_gpus_per_node must be greater than 0, got {value.toInt}"
  | configuredNodes value => s!"reward_model.nnodes must be greater than 0, got {value.toInt}"

end AuxiliaryFault

inductive PlanError where
  | invalidCluster (fault : ClusterFault)
  | invalidAuxiliary (fault : AuxiliaryFault)
  | unknownPool (role : Role) (pool : String)
  | duplicatePool (name : String)
  | overAllocation (node : Nat) (requested : UInt64) (available : UInt32)
  | rowMismatch (pool : String) (expected actual : Nat)
  | unboundRole (role : Role)
  | unknownRoleName (text : String)
deriving DecidableEq

namespace PlanError

def message : PlanError → String
  | invalidCluster fault => s!"invalid cluster shape: {fault.message}"
  | invalidAuxiliary fault => s!"invalid auxiliary pool: {fault.message}"
  | unknownPool role pool => s!"role {role.name} is bound to unknown pool: {pool}"
  | duplicatePool name => s!"duplicate pool name: {name}"
  | overAllocation node requested available =>
    s!"over-allocation on node {node}: pools request {requested.toNat} devices, " ++
      s!"node has {available.toNat}"
  | rowMismatch pool expected actual =>
    s!"pool {pool} declares {actual} node rows, expected {expected}"
  | unboundRole role => s!"role not bound in placement plan: {role.name}"
  | unknownRoleName text => s!"unrecognized role name: {text}"

end PlanError

def Role.ofName (text : String) : Except PlanError Role :=
  match Role.ofName? text with
  | some role => .ok role
  | none => .error (.unknownRoleName text)

theorem Role.ofName_eq_ok_iff {text : String} {role : Role} :
    Role.ofName text = .ok role ↔ text = role.name := by
  rw [← Role.ofName?_eq_some_iff, Role.ofName]
  cases Role.ofName? text <;> simp

end DevicePlan
