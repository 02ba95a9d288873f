import DevicePlan.Error

namespace DevicePlan

structure Cluster where
  nodes : UInt32
  devicesPerNode : UInt32
  nodes_pos : 0 < nodes
  nodes_le : nodes ≤ maxNodes
  devicesPerNode_pos : 0 < devicesPerNode
deriving DecidableEq

namespace Cluster

/-- The cluster of the given counts. The node count is judged before the device count. -/
def ofCounts (nodes devicesPerNode : UInt32) : Except PlanError Cluster :=
  if noNodes : nodes = 0 then
    .error (.invalidCluster .noNodes)
  else if within : nodes ≤ maxNodes then
    if noDevices : devicesPerNode = 0 then
      .error (.invalidCluster .noDevices)
    else
      .ok ⟨nodes, devicesPerNode, UInt32.pos_iff_ne_zero.mpr noNodes, within,
        UInt32.pos_iff_ne_zero.mpr noDevices⟩
  else
    .error (.invalidCluster (.tooManyNodes nodes))

def totalDevices (cluster : Cluster) : UInt64 :=
  cluster.nodes.toUInt64 * cluster.devicesPerNode.toUInt64

def describe (cluster : Cluster) : String :=
  toString cluster.nodes.toNat ++ "x" ++ toString cluster.devicesPerNode.toNat

end Cluster

end DevicePlan
