import DevicePlan.Document.Value
import DevicePlan.Plan

namespace DevicePlan

def Cluster.encode (cluster : Cluster) : Value :=
  .table [("nodes", .integer cluster.nodes.toNat),
    ("devices_per_node", .integer cluster.devicesPerNode.toNat)]

def Pool.encode (pool : Pool) : Value :=
  .table [("name", .string pool.name),
    ("per_node_device_counts",
      .array (pool.rows.toList.map fun count => .integer count.toNat)),
    ("provisioning", .string pool.provisioning.name)]

def Layout.encode (layout : Layout) : Value :=
  .table [("cluster", layout.cluster.encode), ("pools", .array (layout.pools.map Pool.encode))]

def Bindings.encode (bindings : Bindings) : Value :=
  .table (bindings.toList.map fun (role, pool) => (role.name, .string pool))

def Plan.encode (plan : Plan) : Value :=
  .table [("cluster", plan.cluster.encode), ("pools", .array (plan.pools.map Pool.encode)),
    ("mapping", plan.bindings.encode)]

end DevicePlan
