import DevicePlan.Proofs.Fault
import DevicePlan.Proofs.Views
import Mathlib.Data.List.Perm.Basic

namespace DevicePlan

theorem deviceSum_perm {counts others : List UInt64} (reordered : counts.Perm others) :
    deviceSum counts = deviceSum others :=
  reordered.foldl_op_eq

theorem find?_name_perm {pools others : List Pool} (reordered : pools.Perm others)
    (distinct : (pools.map Pool.name).Nodup) (name : String) :
    pools.find? (fun pool => pool.name == name) = others.find? (fun pool => pool.name == name) := by
  have apart := (reordered.map Pool.name).nodup distinct
  ext pool
  rw [find?_name_eq_some_iff distinct, find?_name_eq_some_iff apart, reordered.mem_iff]

theorem findSome?_congr {α β : Type} {entries : List α} {test other : α → Option β}
    (same : ∀ entry ∈ entries, test entry = other entry) :
    entries.findSome? test = entries.findSome? other := by
  rw [← List.head?_filterMap, ← List.head?_filterMap, List.filterMap_congr same]

namespace Layout

structure Reorders (layout other : Layout) : Prop where
  cluster : layout.cluster = other.cluster
  pools : layout.pools.Perm other.pools

namespace Reorders

variable {layout other : Layout} {bindings : Bindings}

theorem symm (reordered : layout.Reorders other) : other.Reorders layout :=
  ⟨reordered.cluster.symm, reordered.pools.symm⟩

theorem names (reordered : layout.Reorders other) : layout.names.Perm other.names :=
  reordered.pools.map Pool.name

theorem primaryPools (reordered : layout.Reorders other) :
    layout.primaryPools.Perm other.primaryPools :=
  reordered.pools.filter _

theorem nameFault (reordered : layout.Reorders other) :
    layout.nameFault = none ↔ other.nameFault = none := by
  rw [nameFault_eq_none_iff, nameFault_eq_none_iff, reordered.names.nodup_iff]

theorem bindingFault (reordered : layout.Reorders other) :
    layout.bindingFault bindings = other.bindingFault bindings := by
  have declared (name : String) : layout.declares name = other.declares name := by
    rw [Bool.eq_iff_iff, declares_iff, declares_iff, reordered.names.mem_iff]
  simp only [Layout.bindingFault, declared]

theorem shapeFault (reordered : layout.Reorders other) :
    layout.shapeFault = none ↔ other.shapeFault = none := by
  have rows : layout.rowFault = other.rowFault := by
    funext pool
    rw [rowFault, rowFault, reordered.cluster]
  simp only [Layout.shapeFault, List.findSome?_eq_none_iff, rows, reordered.pools.mem_iff]

theorem load? (reordered : layout.Reorders other) {node : Nat}
    (rows : ∀ pool ∈ layout.primaryPools, node < pool.rows.size) :
    layout.load? node = other.load? node := by
  have others : ∀ pool ∈ other.primaryPools, node < pool.rows.size := by
    intro pool member
    exact rows pool (reordered.primaryPools.mem_iff.mpr member)
  rw [load?_of_rows rows, load?_of_rows others]
  exact congrArg some (deviceSum_perm ((reordered.primaryPools.map _).map _))

theorem budgetFault (reordered : layout.Reorders other) (shaped : layout.shapeFault = none) :
    layout.budgetFault = other.budgetFault := by
  have sizes := forall_mem_primaryPools.mpr (shapeFault_eq_none_iff.mp shaped).1
  unfold Layout.budgetFault
  rw [← reordered.cluster]
  apply findSome?_congr
  intro node inside
  -- With a row for the node in every pool the load is a plain sum, which no order changes.
  have rows : ∀ pool ∈ layout.primaryPools, node < pool.rows.size := by
    intro pool member
    rw [sizes pool member]
    exact List.mem_range.mp inside
  rw [reordered.load? rows]

end Reorders

theorem nameFault_ne {layout : Layout} {error : PlanError}
    (other : ∀ name, error ≠ .duplicatePool name) : layout.nameFault ≠ some error := by
  intro found
  obtain ⟨-, pool, -, -, -, -, same⟩ := nameFault_eq_some_iff.mp found
  exact other pool.name same

theorem fault_eq_unknownPool_iff {layout : Layout} {bindings : Bindings} {role : Role}
    {name : String} : layout.fault bindings = some (.unknownPool role name) ↔
      layout.nameFault = none ∧ layout.bindingFault bindings = some (.unknownPool role name) := by
  constructor
  · intro found
    refine ⟨?_, bindingFault_of_fault found⟩
    rcases fault_eq_some_iff.mp found with repeated | ⟨distinct, -⟩
    · exact absurd repeated (nameFault_ne nofun)
    · exact distinct
  · rintro ⟨distinct, unbound⟩
    exact fault_eq_some_iff.mpr (.inr ⟨distinct, .inl unbound⟩)

theorem fault_eq_overAllocation_iff {layout : Layout} {bindings : Bindings} {node : Nat}
    {requested : UInt64} {available : UInt32} :
    layout.fault bindings = some (.overAllocation node requested available) ↔
      layout.nameFault = none ∧ layout.bindingFault bindings = none ∧ layout.shapeFault = none ∧
        layout.budgetFault = some (.overAllocation node requested available) := by
  rw [fault_eq_some_iff]
  constructor
  · rintro (repeated | ⟨distinct, unbound | ⟨hosts, misshapen | ⟨shaped, overloaded⟩⟩⟩)
    · exact absurd repeated (nameFault_ne nofun)
    · obtain ⟨role, name, -, -, impossible, -⟩ := bindingFault_eq_some_iff.mp unbound
      cases impossible
    · obtain ⟨before, pool, after, -, wrong, -⟩ := shapeFault_eq_some_iff.mp misshapen
      rcases rowFault_eq_some_iff.mp wrong with ⟨-, -, impossible⟩ | ⟨-, -, impossible⟩
      · cases impossible
      · cases impossible
    · exact ⟨distinct, hosts, shaped, overloaded⟩
  · rintro ⟨distinct, hosts, shaped, overloaded⟩
    exact .inr ⟨distinct, .inr ⟨hosts, .inr ⟨shaped, overloaded⟩⟩⟩

namespace Reorders

variable {layout other : Layout} {bindings : Bindings}

/-- The order of the pools decides neither whether the budgets are looked at nor what is found. -/
theorem budgets_iff (reordered : layout.Reorders other) (found : Option PlanError) :
    (layout.nameFault = none ∧ layout.bindingFault bindings = none ∧ layout.shapeFault = none ∧
      layout.budgetFault = found) ↔
    other.nameFault = none ∧ other.bindingFault bindings = none ∧ other.shapeFault = none ∧
      other.budgetFault = found := by
  rw [reordered.nameFault, reordered.bindingFault, reordered.shapeFault]
  refine and_congr_right fun _ => and_congr_right fun _ => and_congr_right fun shaped => ?_
  rw [reordered.budgetFault (reordered.shapeFault.mpr shaped)]

theorem fault_eq_none_iff (reordered : layout.Reorders other) :
    layout.fault bindings = none ↔ other.fault bindings = none := by
  rw [Layout.fault_eq_none_iff, Layout.fault_eq_none_iff, reordered.budgets_iff]

theorem fault_unknownPool (reordered : layout.Reorders other) (role : Role) (name : String) :
    layout.fault bindings = some (.unknownPool role name) ↔
      other.fault bindings = some (.unknownPool role name) := by
  rw [fault_eq_unknownPool_iff, fault_eq_unknownPool_iff, reordered.nameFault,
    reordered.bindingFault]

theorem fault_overAllocation (reordered : layout.Reorders other) (node : Nat)
    (requested : UInt64) (available : UInt32) :
    layout.fault bindings = some (.overAllocation node requested available) ↔
      other.fault bindings = some (.overAllocation node requested available) := by
  rw [fault_eq_overAllocation_iff, fault_eq_overAllocation_iff, reordered.budgets_iff]

end Reorders

def backwards (layout : Layout) : Layout := { layout with pools := layout.pools.reverse }

theorem reorders_backwards (layout : Layout) : layout.Reorders layout.backwards :=
  ⟨rfl, (List.reverse_perm layout.pools).symm⟩

end Layout

namespace Plan

structure Reorders (plan other : Plan) : Prop where
  cluster : plan.cluster = other.cluster
  bindings : plan.bindings = other.bindings
  pools : plan.pools.Perm other.pools
  resolve : ∀ role, plan.resolve role = other.resolve role
  primaryDevices : plan.primaryDevices = other.primaryDevices
  totalDevices : plan.totalDevices = other.totalDevices
  rolesByPool : plan.rolesByPool.Perm other.rolesByPool
  located : ∀ position place : Nat, plan.pools[position]? = other.pools[place]? →
    plan.rolesByPool[position]? = other.rolesByPool[place]?

theorem reorders_of_perm {plan other : Plan} (consistent : plan.Consistent)
    (cluster : plan.cluster = other.cluster) (bindings : plan.bindings = other.bindings)
    (pools : plan.pools.Perm other.pools) : plan.Reorders other where
  cluster := cluster
  bindings := bindings
  pools := pools
  resolve := by
    intro role
    have found (name : String) : plan.pool? name = other.pool? name :=
      find?_name_perm pools consistent.distinct name
    simp only [resolve, bindings, found]
  primaryDevices := deviceSum_perm ((pools.filter _).map Pool.totalDevices)
  totalDevices := deviceSum_perm (pools.map Pool.totalDevices)
  rolesByPool := by
    rw [rolesByPool, rolesByPool, bindings]
    exact pools.map _
  located := by
    intro position place same
    rw [rolesByPool, rolesByPool, List.getElem?_map, List.getElem?_map, same, bindings]

theorem freeze_reordered {layout other : Layout} (reordered : layout.Reorders other)
    (bindings : Bindings) :
    ((∃ plan, freeze layout bindings = .ok plan) ↔ ∃ plan, freeze other bindings = .ok plan) ∧
    (∀ plan after, freeze layout bindings = .ok plan → freeze other bindings = .ok after →
      plan.Reorders after) ∧
    (∀ node requested available,
      freeze layout bindings = .error (.overAllocation node requested available) ↔
        freeze other bindings = .error (.overAllocation node requested available)) ∧
    ∀ role name, freeze layout bindings = .error (.unknownPool role name) ↔
      freeze other bindings = .error (.unknownPool role name) := by
  refine ⟨?_, ?_, ?_, ?_⟩
  · simp only [freeze_eq_ok_iff, exists_and_left, exists_eq, and_true]
    exact reordered.fault_eq_none_iff
  · intro plan after frozen again
    have consistent := consistent_of_freeze frozen
    obtain ⟨-, rfl⟩ := freeze_eq_ok_iff.mp frozen
    obtain ⟨-, rfl⟩ := freeze_eq_ok_iff.mp again
    exact reorders_of_perm consistent reordered.cluster rfl reordered.pools
  · intro node requested available
    rw [freeze_eq_error_iff, freeze_eq_error_iff]
    exact reordered.fault_overAllocation node requested available
  · intro role name
    rw [freeze_eq_error_iff, freeze_eq_error_iff]
    exact reordered.fault_unknownPool role name

theorem freeze_backwards :
    (∃ plan, freeze fullNodes.backwards (.split "first" "second") = .ok plan ∧
      plan.resolve .reference = .ok ⟨"first", #[1, 3], .primary⟩ ∧ plan.primaryDevices = 8) ∧
    freeze crowded.backwards (.split "first" "own") = .error (.overAllocation 2 9 8) ∧
    freeze crowded.backwards (.split "first" "gone") =
      .error (.unknownPool .critic "gone") := by
  obtain ⟨accepted, alike, -⟩ :=
    freeze_reordered fullNodes.reorders_backwards (.split "first" "second")
  obtain ⟨plan, frozen⟩ := accepted.mp ⟨_, freeze_fullNodes⟩
  have same := alike _ plan freeze_fullNodes frozen
  obtain ⟨-, -, overloaded, -⟩ :=
    freeze_reordered crowded.reorders_backwards (.split "first" "own")
  obtain ⟨-, -, -, unbound⟩ :=
    freeze_reordered crowded.reorders_backwards (.split "first" "gone")
  refine ⟨⟨plan, frozen, (same.resolve .reference).symm.trans (by decide),
    same.primaryDevices.symm.trans (by decide)⟩, (overloaded _ _ _).mp ?_, (unbound _ _).mp ?_⟩
  · decide +kernel
  · decide +kernel

end Plan

end DevicePlan
