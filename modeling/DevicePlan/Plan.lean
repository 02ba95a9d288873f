import DevicePlan.Bindings

/-!
# Plans

A plan is a layout with its bindings, after all of it has been checked together. `Plan.freeze` is
the one way to a plan. It checks, in this order, that pool names are distinct, that every binding
names a declared pool, that every pool has the rows it should have, and that no node is asked for
more devices than it has; the first check that fails gives the error.
-/

namespace DevicePlan

namespace Layout

def primaryPools (layout : Layout) : List Pool :=
  layout.pools.filter fun pool => !pool.isAuxiliary

def firstRepeat (seen : List String) : List String → Option String
  | [] => none
  | name :: rest => if name ∈ seen then some name else firstRepeat (name :: seen) rest

def nameFault (layout : Layout) : Option PlanError :=
  (firstRepeat [] (layout.pools.map Pool.name)).map .duplicatePool

def bindingFault (layout : Layout) (bindings : Bindings) : Option PlanError :=
  bindings.toList.findSome? fun (role, pool) =>
    if layout.declares pool then none else some (.unknownPool role pool)

def rowFault (layout : Layout) (pool : Pool) : Option PlanError :=
  if pool.isAuxiliary then
    if pool.rows.isEmpty || pool.rows.contains 0 then
      some (.invalidAuxiliary (.emptyNode pool.name))
    else none
  else if pool.rows.size ≠ layout.cluster.nodes.toNat then
    some (.rowMismatch pool.name layout.cluster.nodes.toNat pool.rows.size)
  else none

def shapeFault (layout : Layout) : Option PlanError :=
  layout.pools.findSome? layout.rowFault

/-- The devices of one node that the primary pools ask for, unless one of them has no row for it. -/
def load? (layout : Layout) (node : Nat) : Option UInt64 :=
  (layout.primaryPools.mapM fun pool => pool.rows[node]?).map fun counts =>
    deviceSum (counts.map UInt32.toUInt64)

def budgetFault (layout : Layout) : Option PlanError :=
  (List.range layout.cluster.nodes.toNat).findSome? fun node =>
    (layout.load? node).bind fun requested =>
      if layout.cluster.devicesPerNode.toUInt64 < requested then
        some (.overAllocation node requested layout.cluster.devicesPerNode)
      else none

def fault (layout : Layout) (bindings : Bindings) : Option PlanError :=
  layout.nameFault <|> layout.bindingFault bindings <|> layout.shapeFault <|> layout.budgetFault

end Layout

structure Plan where
  cluster : Cluster
  pools : List Pool
  bindings : Bindings
deriving DecidableEq

namespace Plan

def freeze (layout : Layout) (bindings : Bindings) : Except PlanError Plan :=
  match layout.fault bindings with
  | some error => .error error
  | none => .ok ⟨layout.cluster, layout.pools, bindings⟩

def pool? (plan : Plan) (name : String) : Option Pool :=
  plan.pools.find? fun pool => pool.name == name

def resolve (plan : Plan) (role : Role) : Except PlanError Pool :=
  match plan.bindings.get role with
  | none => .error (.unboundRole role)
  | some name =>
    match plan.pool? name with
    | some pool => .ok pool
    | none => .error (.unknownPool role name)

def rolesByPool (plan : Plan) : List (Pool × List Role) :=
  plan.pools.map fun pool => (pool, plan.bindings.rolesOf pool.name)

def primaryDevices (plan : Plan) : UInt64 :=
  deviceSum ((plan.pools.filter fun pool => !pool.isAuxiliary).map Pool.totalDevices)

def totalDevices (plan : Plan) : UInt64 :=
  deviceSum (plan.pools.map Pool.totalDevices)

end Plan

end DevicePlan
