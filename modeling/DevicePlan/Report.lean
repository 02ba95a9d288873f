import DevicePlan.Plan

namespace DevicePlan.Plan

def describeRoles (roles : List Role) : String :=
  if roles.isEmpty then "(none)" else ", ".intercalate (roles.map Role.name)

def reportPool (pool : Pool) (roles : List Role) : String :=
  s!"  • {pool.name} [{pool.provisioning.name}] {pool.describeRows} " ++
    s!"({pool.totalDevices.toNat} devices)\n" ++
    s!"      roles: {describeRoles roles}\n"

def reportHeader (plan : Plan) : String :=
  s!"Cluster: {plan.cluster.nodes.toNat} node(s) x {plan.cluster.devicesPerNode.toNat} " ++
    s!"device(s) = {plan.cluster.totalDevices.toNat} devices\n" ++
    s!"Allocated: {plan.primaryDevices.toNat} primary, {plan.totalDevices.toNat} total\n\n" ++
    s!"Pools ({plan.pools.length}):\n"

def report (plan : Plan) : String :=
  plan.reportHeader ++
    String.join (plan.rolesByPool.map fun (pool, roles) => reportPool pool roles)

end DevicePlan.Plan
