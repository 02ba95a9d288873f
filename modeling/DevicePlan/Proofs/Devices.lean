import DevicePlan.Proofs.Job.Placement
import Mathlib.Data.Nat.SuccPred
import Mathlib.Order.Interval.Set.Union
import Mathlib.Order.SuccPred.IntervalSucc

/-!
# Devices are neither shared nor lost

On each node the primary pools of a plan take their devices one after the other, in the order of
declaration (`Plan.span`). A frozen plan stays within every node, so these spans are disjoint and
the totals of the plan add up (`sharesNothing_of_freeze`): the devices of pools are summed pool by
pool, the budgets node by node, and both sums are the same (`sum_devices`). The pools that a policy
declares use every node up to its last device (`losesNothing_of_place`).
-/

namespace DevicePlan

/-! ## Devices of pools -/

namespace Pool

def on (pool : Pool) (node : Nat) : Nat := (pool.rows.getD node 0).toNat

def devices (pool : Pool) : Nat := (pool.rows.toList.map UInt32.toNat).sum

theorem on_eq_of_getElem? {pool : Pool} {node : Nat} {row : UInt32}
    (located : pool.rows[node]? = some row) : pool.on node = row.toNat := by
  rw [on, Array.getD_eq_getD_getElem?, located, Option.getD_some]

theorem devices_eq_sum (pool : Pool) :
    pool.devices = ((List.range pool.rows.size).map pool.on).sum := by
  have rows : pool.rows.toList.map UInt32.toNat = (List.range pool.rows.size).map pool.on := by
    apply List.ext_getElem
    · simp
    · intro node inside _
      have located : node < pool.rows.size := by simpa using inside
      simp [on, located]
  rw [devices, rows]

theorem toNat_totalDevices {pool : Pool} (bound : pool.devices < 2 ^ 64) :
    pool.totalDevices.toNat = pool.devices := by
  have exactRows : (pool.rows.toList.map UInt32.toUInt64).map UInt64.toNat =
      pool.rows.toList.map UInt32.toNat := by
    simp [Function.comp_def]
  rw [totalDevices, toNat_deviceSum, exactRows]
  exact Nat.mod_eq_of_lt bound

theorem devices_uniform (name : String) (count nodes : UInt32) (provisioning : Provisioning) :
    (uniform name count nodes provisioning).devices = nodes.toNat * count.toNat := by
  simp [devices, uniform]

end Pool

theorem toNat_deviceSum_pools {pools : List Pool}
    (bound : (pools.map Pool.devices).sum < 2 ^ 64) :
    (deviceSum (pools.map Pool.totalDevices)).toNat = (pools.map Pool.devices).sum := by
  have exactPools : (pools.map Pool.totalDevices).map UInt64.toNat = pools.map Pool.devices := by
    rw [List.map_map]
    apply List.map_congr_left
    intro pool member
    apply Pool.toNat_totalDevices
    exact (List.le_sum_of_mem (List.mem_map_of_mem member)).trans_lt bound
  rw [toNat_deviceSum, exactPools]
  exact Nat.mod_eq_of_lt bound

theorem sum_devices {pools : List Pool} {nodes : Nat}
    (rows : ∀ pool ∈ pools, pool.rows.size = nodes) :
    (pools.map Pool.devices).sum =
      ((List.range nodes).map fun node => (pools.map fun pool => pool.on node).sum).sum := by
  induction pools with
  | nil => simp
  | cons pool rest ih =>
    have here : pool.devices = ((List.range nodes).map pool.on).sum := by
      rw [pool.devices_eq_sum, rows pool List.mem_cons_self]
    have later := ih fun other member => rows other (List.mem_cons_of_mem pool member)
    simp only [List.map_cons, List.sum_cons]
    rw [here, later, List.sum_map_add]

theorem sum_devices_filter (pools : List Pool) :
    (pools.map Pool.devices).sum =
      ((pools.filter fun pool => !pool.isAuxiliary).map Pool.devices).sum +
        ((pools.filter Pool.isAuxiliary).map Pool.devices).sum := by
  induction pools with
  | nil => rfl
  | cons pool rest ih =>
    cases kind : pool.isAuxiliary with
    | false =>
      simp only [List.filter_cons, kind, Bool.not_false, if_true, Bool.false_eq_true, if_false,
        List.map_cons, List.sum_cons]
      omega
    | true =>
      simp only [List.filter_cons, kind, Bool.not_true, Bool.false_eq_true, if_false, if_true,
        List.map_cons, List.sum_cons]
      omega

theorem Cluster.toNat_totalDevices (cluster : Cluster) :
    cluster.totalDevices.toNat = cluster.nodes.toNat * cluster.devicesPerNode.toNat := by
  have few := cluster.nodes_bounds.2
  have narrow := cluster.devicesPerNode.toNat_lt
  have bound : cluster.nodes.toNat * cluster.devicesPerNode.toNat ≤ 65536 * 2 ^ 32 :=
    Nat.mul_le_mul few narrow.le
  rw [totalDevices, UInt64.toNat_mul, UInt32.toNat_toUInt64, UInt32.toNat_toUInt64]
  apply Nat.mod_eq_of_lt
  omega

/-! ## Spans of devices -/

namespace Plan

def primaryPools (plan : Plan) : List Pool :=
  plan.pools.filter fun pool => !pool.isAuxiliary

/-- The first device of a node for the primary pool at a position: all before it are taken by the
pools before this one. -/
def firstDevice (plan : Plan) (node position : Nat) : Nat :=
  ((plan.primaryPools.take position).map fun pool => pool.on node).sum

def span (plan : Plan) (node position : Nat) : Set Nat :=
  Set.Ico (plan.firstDevice node position) (plan.firstDevice node (position + 1))

structure SharesNothing (plan : Plan) : Prop where
  disjoint : ∀ node < plan.cluster.nodes.toNat, ∀ position other, position ≠ other →
    ∀ device ∈ plan.span node position, device ∉ plan.span node other
  located : ∀ node < plan.cluster.nodes.toNat, ∀ position pool,
    plan.primaryPools[position]? = some pool → ∃ row, pool.rows[node]? = some row ∧
      plan.span node position = Set.Ico (plan.firstDevice node position)
        (plan.firstDevice node position + row.toNat) ∧
      plan.firstDevice node position + row.toNat ≤ plan.cluster.devicesPerNode.toNat
  row_le : ∀ pool ∈ plan.primaryPools, ∀ row ∈ pool.rows, row ≤ plan.cluster.devicesPerNode
  primary_le : plan.primaryDevices ≤ plan.cluster.totalDevices
  total_eq : plan.totalDevices.toNat = plan.primaryDevices.toNat +
    ((plan.pools.filter Pool.isAuxiliary).map Pool.devices).sum

structure LosesNothing (plan : Plan) : Prop where
  covered : ∀ node < plan.cluster.nodes.toNat, ∀ device < plan.cluster.devicesPerNode.toNat,
    ∃ position < plan.primaryPools.length, device ∈ plan.span node position
  full : ∀ node < plan.cluster.nodes.toNat,
    (plan.primaryPools.map fun pool => pool.on node).sum = plan.cluster.devicesPerNode.toNat
  primary_eq : plan.primaryDevices = plan.cluster.totalDevices
  noEmptyRow : ∀ pool ∈ plan.pools, 0 ∉ pool.rows

def Halves (plan : Plan) (first second : String) : Prop :=
  ∃ larger smaller, plan.primaryPools = [larger, smaller] ∧
    larger.name = first ∧ smaller.name = second ∧
    ∀ node < plan.cluster.nodes.toNat, ∃ most least, larger.rows[node]? = some most ∧
      smaller.rows[node]? = some least ∧ least ≤ most ∧ most.toNat ≤ least.toNat + 1

section Spans

variable (plan : Plan) (node : Nat)

theorem firstDevice_length : plan.firstDevice node plan.primaryPools.length =
    (plan.primaryPools.map fun pool => pool.on node).sum := by
  rw [firstDevice, List.take_length]

theorem firstDevice_add_one {position : Nat} {pool : Pool}
    (located : plan.primaryPools[position]? = some pool) :
    plan.firstDevice node (position + 1) = plan.firstDevice node position + pool.on node := by
  rw [firstDevice, List.take_add_one, located, List.map_append, List.sum_append, firstDevice]
  simp

theorem firstDevice_mono : Monotone (plan.firstDevice node) := by
  apply monotone_nat_of_le_succ
  intro position
  cases located : plan.primaryPools[position]? with
  | none =>
    rw [firstDevice, firstDevice, List.take_add_one, located, Option.toList_none, List.append_nil]
  | some pool =>
    rw [plan.firstDevice_add_one node located]
    exact Nat.le_add_right _ _

theorem firstDevice_le (position : Nat) :
    plan.firstDevice node position ≤ (plan.primaryPools.map fun pool => pool.on node).sum := by
  rw [← plan.firstDevice_length node]
  rcases Nat.le_total position plan.primaryPools.length with inside | beyond
  · exact plan.firstDevice_mono node inside
  · rw [firstDevice, List.take_of_length_le beyond, firstDevice_length]

theorem notMem_span {position other device : Nat} (apart : position ≠ other)
    (taken : device ∈ plan.span node position) : device ∉ plan.span node other :=
  Set.disjoint_left.mp ((plan.firstDevice_mono node).pairwise_disjoint_on_Ico_succ apart) taken

theorem exists_span {device : Nat}
    (inside : device < (plan.primaryPools.map fun pool => pool.on node).sum) :
    ∃ position < plan.primaryPools.length, device ∈ plan.span node position := by
  rw [← plan.firstDevice_length node] at inside
  have member : device ∈ Set.Ico (plan.firstDevice node 0)
      (plan.firstDevice node plan.primaryPools.length) := ⟨by simp [firstDevice], inside⟩
  have somewhere := Ico_subset_biUnion_Ico plan.primaryPools.length (plan.firstDevice node) member
  simp only [Set.mem_iUnion, Finset.mem_range, exists_prop] at somewhere
  exact somewhere

end Spans

/-! ## Frozen plans -/

section Admitted

variable {plan : Plan}

theorem toNat_primaryDevices (bound : (plan.primaryPools.map Pool.devices).sum < 2 ^ 64) :
    plan.primaryDevices.toNat = (plan.primaryPools.map Pool.devices).sum :=
  toNat_deviceSum_pools bound

theorem sum_devices_primary_le (rows : ∀ pool ∈ plan.primaryPools,
      pool.rows.size = plan.cluster.nodes.toNat)
    (budget : ∀ node < plan.cluster.nodes.toNat,
      (plan.primaryPools.map fun pool => pool.on node).sum ≤ plan.cluster.devicesPerNode.toNat) :
    (plan.primaryPools.map Pool.devices).sum ≤
      plan.cluster.nodes.toNat * plan.cluster.devicesPerNode.toNat := by
  have within : ∀ asked ∈ (List.range plan.cluster.nodes.toNat).map fun node =>
      (plan.primaryPools.map fun pool => pool.on node).sum,
      asked ≤ plan.cluster.devicesPerNode.toNat := by
    intro asked member
    obtain ⟨node, inside, rfl⟩ := List.mem_map.mp member
    exact budget node (List.mem_range.mp inside)
  rw [sum_devices rows]
  simpa using List.sum_le_card_nsmul _ _ within

theorem sharesNothing (rows : ∀ pool ∈ plan.primaryPools,
      pool.rows.size = plan.cluster.nodes.toNat)
    (budget : ∀ node < plan.cluster.nodes.toNat,
      (plan.primaryPools.map fun pool => pool.on node).sum ≤ plan.cluster.devicesPerNode.toNat)
    (bound : (plan.pools.map Pool.devices).sum < 2 ^ 64) : plan.SharesNothing := by
  have parts := sum_devices_filter plan.pools
  have primary : plan.primaryDevices.toNat = (plan.primaryPools.map Pool.devices).sum := by
    apply toNat_primaryDevices
    rw [primaryPools]
    omega
  refine ⟨fun node _ _ _ apart _ => plan.notMem_span node apart, ?_, ?_, ?_, ?_⟩
  · intro node inside position pool located
    have size := rows pool (List.mem_of_getElem? located)
    have row : pool.rows[node]? = some pool.rows[node] := Array.getElem?_eq_getElem (by omega)
    have next := plan.firstDevice_add_one node located
    rw [Pool.on_eq_of_getElem? row] at next
    refine ⟨pool.rows[node], row, by rw [span, next], ?_⟩
    rw [← next]
    exact (plan.firstDevice_le node (position + 1)).trans (budget node inside)
  · intro pool member row held
    obtain ⟨node, inside, rfl⟩ := Array.getElem_of_mem held
    have share : pool.on node ≤ (plan.primaryPools.map fun pool => pool.on node).sum :=
      List.le_sum_of_mem (List.mem_map_of_mem member)
    rw [Pool.on_eq_of_getElem? (Array.getElem?_eq_getElem inside)] at share
    rw [rows pool member] at inside
    exact UInt32.le_iff_toNat_le.mpr (share.trans (budget node inside))
  · rw [UInt64.le_iff_toNat_le, primary, Cluster.toNat_totalDevices]
    exact sum_devices_primary_le rows budget
  · rw [primary, totalDevices, toNat_deviceSum_pools bound, parts, primaryPools]

theorem losesNothing (rows : ∀ pool ∈ plan.primaryPools,
      pool.rows.size = plan.cluster.nodes.toNat)
    (full : ∀ node < plan.cluster.nodes.toNat,
      (plan.primaryPools.map fun pool => pool.on node).sum = plan.cluster.devicesPerNode.toNat)
    (noEmptyRow : ∀ pool ∈ plan.pools, 0 ∉ pool.rows) : plan.LosesNothing := by
  refine ⟨?_, full, ?_, noEmptyRow⟩
  · intro node inside device within
    apply plan.exists_span node
    rw [full node inside]
    exact within
  · have nodes : (plan.primaryPools.map Pool.devices).sum = plan.cluster.totalDevices.toNat := by
      rw [sum_devices rows, Cluster.toNat_totalDevices,
        List.map_congr_left fun node inside => full node (List.mem_range.mp inside)]
      simp
    have bound : (plan.primaryPools.map Pool.devices).sum < 2 ^ 64 := by
      rw [nodes]
      exact plan.cluster.totalDevices.toNat_lt
    rw [← UInt64.toNat_inj, toNat_primaryDevices bound, nodes]

end Admitted

theorem sharesNothing_of_freeze {layout : Layout} {bindings : Bindings} {plan : Plan}
    (few : layout.pools.length ≤ 2 ^ 32) (frozen : freeze layout bindings = .ok plan)
    (bound : (plan.pools.map Pool.devices).sum < 2 ^ 64) : plan.SharesNothing := by
  obtain ⟨faultless, rfl⟩ := freeze_eq_ok_iff.mp frozen
  have admits := (Layout.fault_eq_none_iff_admits few).mp faultless
  exact sharesNothing (Layout.forall_mem_primaryPools.mpr admits.primaryRows) admits.withinBudget
    bound

end Plan

/-! ## Placements -/

namespace Policy

theorem sum_devices_layout_lt {policy : Policy} {cluster : Cluster} {names : PoolNames}
    (requestFits : ∀ request ∈ policy.auxiliary, request.Fits) :
    ((policy.layout cluster names).pools.map Pool.devices).sum < 2 ^ 64 := by
  have narrow (count : UInt32) : count.toNat ≤ 2 ^ 32 := count.toNat_lt.le
  have primary (count : UInt32) : cluster.nodes.toNat * count.toNat ≤ 65536 * 2 ^ 32 :=
    Nat.mul_le_mul cluster.nodes_bounds.2 (narrow count)
  have auxiliary : ((policy.auxiliaryPools names).map Pool.devices).sum ≤ 65536 * 2 ^ 32 := by
    unfold auxiliaryPools
    cases asked : policy.auxiliary with
    | none => simp
    | some request =>
      obtain ⟨-, -, few⟩ := requestFits request asked
      simpa [Pool.devices_uniform] using Nat.mul_le_mul few (narrow request.devicesPerNode)
  rw [layout, List.map_append, List.sum_append]
  unfold primaryPools
  split
  · have wide := primary cluster.devicesPerNode
    simp only [List.map_cons, List.map_nil, List.sum_cons, List.sum_nil, Pool.devices_uniform]
    omega
  · have larger := primary (Layout.firstShare cluster.devicesPerNode)
    have smaller := primary (Layout.secondShare cluster.devicesPerNode)
    simp only [List.map_cons, List.map_nil, List.sum_cons, List.sum_nil, Pool.devices_uniform]
    omega

theorem noEmptyRow_layout {policy : Policy} {cluster : Cluster} {names : PoolNames}
    (wideEnough : policy.sharing = .split → 2 ≤ cluster.devicesPerNode.toNat)
    (requestFits : ∀ request ∈ policy.auxiliary, request.Fits) :
    ∀ pool ∈ (policy.layout cluster names).pools, 0 ∉ pool.rows := by
  intro pool member empty
  have zero (count : UInt32) (name : String) (nodes : UInt32) (provisioning : Provisioning)
      (held : 0 ∈ (Pool.uniform name count nodes provisioning).rows) : count.toNat = 0 := by
    rw [← (Array.mem_replicate.mp held).2]
    rfl
  rcases List.mem_append.mp member with member | member
  · unfold primaryPools at member
    split at member
    · obtain rfl := List.mem_singleton.mp member
      have positive := UInt32.lt_iff_toNat_lt.mp cluster.devicesPerNode_pos
      rw [zero _ _ _ _ empty] at positive
      exact Nat.lt_irrefl 0 positive
    · rename_i split
      have enough := wideEnough split
      simp only [List.mem_cons, List.not_mem_nil, or_false] at member
      rcases member with rfl | rfl
      · have none := zero _ _ _ _ empty
        rw [Layout.toNat_firstShare] at none
        omega
      · have none := zero _ _ _ _ empty
        rw [Layout.toNat_secondShare] at none
        omega
  · exact (isAuxiliary_of_mem requestFits member).2.2 empty

end Policy

namespace Plan

section Placed

variable {cluster : Cluster} {policy : Policy} {names : PoolNames}
  {overrides : List (Role × String)} {plan : Plan}

theorem sharesNothing_of_place
    (placed : (place cluster policy names overrides).outcome = .ok plan) : plan.SharesNothing := by
  have frozen := freeze_of_place placed
  obtain ⟨placeable, rfl⟩ := place_eq_ok_iff.mp placed
  have few : (policy.layout cluster names).pools.length ≤ 2 ^ 32 :=
    (policy.length_layout_le cluster names).trans (by decide)
  exact sharesNothing_of_freeze few frozen (Policy.sum_devices_layout_lt placeable.requestFits)

theorem losesNothing_of_place
    (placed : (place cluster policy names overrides).outcome = .ok plan) : plan.LosesNothing := by
  obtain ⟨placeable, rfl⟩ := place_eq_ok_iff.mp placed
  refine losesNothing ?_ (fun node inside => Policy.demand_layout inside)
    (Policy.noEmptyRow_layout placeable.wideEnough placeable.requestFits)
  intro pool member
  have primary : pool ∈ policy.primaryPools cluster names := by
    rw [← Policy.primaryPools_layout]
    exact member
  exact (Policy.isPrimary_of_mem primary).2

theorem halves_of_place
    (placed : (place cluster policy names overrides).outcome = .ok plan)
    (split : policy.sharing = .split) : plan.Halves names.actor names.critic := by
  obtain ⟨-, rfl⟩ := place_eq_ok_iff.mp placed
  have pools : (policy.layout cluster names).primaryPools =
      [.uniform names.actor (Layout.firstShare cluster.devicesPerNode) cluster.nodes .primary,
        .uniform names.critic (Layout.secondShare cluster.devicesPerNode) cluster.nodes
          .primary] := by
    rw [Policy.primaryPools_layout, Policy.primaryPools, split]
  refine ⟨_, _, pools, rfl, rfl, ?_⟩
  intro node inside
  have row (name : String) (count : UInt32) :
      (Pool.uniform name count cluster.nodes .primary).rows[node]? = some count := by
    have within : node < cluster.nodes.toNat := inside
    simp [Pool.uniform, within]
  refine ⟨_, _, row _ _, row _ _, ?_, ?_⟩
  · rw [UInt32.le_iff_toNat_le, Layout.toNat_firstShare, Layout.toNat_secondShare]
    omega
  · rw [Layout.toNat_firstShare, Layout.toNat_secondShare]
    omega

end Placed

theorem oddSplit_placeable : Policy.oddSplit.Placeable
    ⟨2, 3, by decide, by decide, by decide⟩ .standard [] :=
  ⟨by decide, Policy.oddSplit_fits, by decide, by decide⟩

/-! ## The statement -/

theorem devices_neither_shared_nor_lost :
    (∀ (layout : Layout) (bindings : Bindings) (plan : Plan), layout.pools.length ≤ 2 ^ 32 →
      freeze layout bindings = .ok plan → (plan.pools.map Pool.devices).sum < 2 ^ 64 →
      plan.SharesNothing) ∧
    (∀ (cluster : Cluster) (policy : Policy) (names : PoolNames)
      (overrides : List (Role × String)) (plan : Plan),
      (place cluster policy names overrides).outcome = .ok plan →
      plan.SharesNothing ∧ plan.LosesNothing ∧
        (policy.sharing = .split → plan.Halves names.actor names.critic)) ∧
    ∀ (job : Job) (plan : Plan), job.place.outcome = .ok plan →
      plan.SharesNothing ∧ plan.LosesNothing ∧
        (job.placement.sharing = .split →
          plan.Halves job.poolNames.actor job.poolNames.critic) := by
  refine ⟨fun _ _ _ => sharesNothing_of_freeze, ?_, ?_⟩
  · intro cluster policy names overrides plan placed
    exact ⟨sharesNothing_of_place placed, losesNothing_of_place placed, halves_of_place placed⟩
  · intro job plan placed
    obtain ⟨cluster, policy, overrides, -, governed, -, planned⟩ := Job.outcome_place_iff.mp placed
    have sharing := (Job.policy_eq_ok_iff.mp governed).1
    exact ⟨sharesNothing_of_place planned, losesNothing_of_place planned,
      fun split => halves_of_place planned (sharing.trans split)⟩

theorem oddSplit_devices :
    (∃ plan, freeze fullNodes (.split "first" "second") = .ok plan ∧ plan.SharesNothing ∧
      plan.totalDevices = 16 ∧ plan.primaryDevices = 8) ∧
    (∃ plan, (place ⟨2, 3, by decide, by decide, by decide⟩ .oddSplit .standard []).outcome =
      .ok plan ∧ plan.LosesNothing ∧ plan.Halves "actor_rollout_ref_pool" "critic_pool") ∧
    ∃ plan, (Job.starter .split).place.outcome = .ok plan ∧ plan.LosesNothing ∧
      plan.Halves "actor_rollout_ref_pool" "critic_pool" := by
  obtain ⟨frozen, placements, jobs⟩ := devices_neither_shared_nor_lost
  refine ⟨?_, ?_, ?_⟩
  · have shares := frozen fullNodes _ _ (by decide) freeze_fullNodes (by decide)
    exact ⟨_, freeze_fullNodes, shares, by decide, by decide⟩
  · have placed : (place ⟨2, 3, by decide, by decide, by decide⟩ .oddSplit .standard []).outcome =
        .ok _ := place_eq_ok_iff.mpr ⟨oddSplit_placeable, rfl⟩
    obtain ⟨-, loses, halves⟩ := placements _ _ _ _ _ placed
    exact ⟨_, placed, loses, halves rfl⟩
  · obtain ⟨plan, placed⟩ := Job.exists_place_iff.mpr (Job.starter_placeable .split)
    obtain ⟨-, loses, halves⟩ := jobs _ plan placed
    exact ⟨plan, placed, loses, halves rfl⟩

end Plan

end DevicePlan
