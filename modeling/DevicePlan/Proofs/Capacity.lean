import DevicePlan.Proofs.Devices
import DevicePlan.Proofs.Draft

/-!
# Sums of devices stay within a word

Devices are summed in 64 bits, and every figure of a plan is the exact one (`Plan.Fits`). A row is a
word of 32 bits, so a pool is small when its rows are few: freezing counts the rows of a primary
pool, and declaring bounds those of an auxiliary pool (`Layout.Declared.bounded`). However many
primary pools there are, they are small together, because the budget of each node bounds them all.
-/

namespace DevicePlan

theorem Cluster.devices_lt (cluster : Cluster) :
    cluster.nodes.toNat * cluster.devicesPerNode.toNat < 2 ^ 48 := by
  have narrow : cluster.devicesPerNode.toNat ≤ 2 ^ 32 - 1 :=
    Nat.le_pred_of_lt cluster.devicesPerNode.toNat_lt
  have bound := Nat.mul_le_mul cluster.nodes_bounds.2 narrow
  omega

theorem Pool.devices_lt {pool : Pool} (few : pool.rows.size ≤ 65536) : pool.devices < 2 ^ 48 := by
  have rows := sum_toNat_le pool.rows.toList
  have bound := Nat.mul_le_mul_right (2 ^ 32 - 1) few
  rw [Array.length_toList] at rows
  rw [devices]
  omega

theorem sum_devices_le {pools : List Pool} (small : ∀ pool ∈ pools, pool.devices < 2 ^ 48) :
    (pools.map Pool.devices).sum ≤ pools.length * (2 ^ 48 - 1) := by
  have each : ∀ count ∈ pools.map Pool.devices, count ≤ 2 ^ 48 - 1 := by
    intro count member
    obtain ⟨pool, inside, rfl⟩ := List.mem_map.mp member
    exact Nat.le_pred_of_lt (small pool inside)
  simpa using List.sum_le_card_nsmul _ _ each

theorem sum_devices_take_le (pools : List Pool) (count : Nat) :
    ((pools.take count).map Pool.devices).sum ≤ (pools.map Pool.devices).sum := by
  have parts := congrArg (fun pools => (pools.map Pool.devices).sum)
    (List.take_append_drop count pools)
  simp only [List.map_append, List.sum_append] at parts
  omega

namespace Layout

inductive Declared : Layout → Prop where
  | first {layout : Layout} (built : Draft.FirstLayout layout) : Declared layout
  | primary {layout : Layout} (declared : Declared layout) (name : String)
    (rows : Array UInt32) : Declared (layout.addPrimary name rows)
  | auxiliary {layout next : Layout} {name : String} {devicesPerNode nodes : UInt32}
    (declared : Declared layout)
    (added : layout.addAuxiliary name devicesPerNode nodes = .ok next) : Declared next

def Bounded (layout : Layout) : Prop :=
  ∀ pool ∈ layout.pools, pool.provisioning = .auxiliary → pool.rows.size ≤ 65536

theorem Bounded.push {layout : Layout} (bounded : layout.Bounded) {pool : Pool}
    (few : pool.provisioning = .auxiliary → pool.rows.size ≤ 65536) :
    (layout.push pool).Bounded := by
  intro other member auxiliary
  rcases List.mem_append.mp member with earlier | last
  · exact bounded other earlier auxiliary
  · obtain rfl := List.mem_singleton.mp last
    exact few auxiliary

theorem bounded_of_first {layout : Layout} (first : Draft.FirstLayout layout) :
    layout.Bounded := by
  have empty (cluster : Cluster) : (Layout.empty cluster).Bounded := by simp [Bounded, Layout.empty]
  cases first with
  | empty cluster => exact empty cluster
  | colocated cluster name => exact (empty cluster).push fun auxiliary => by cases auxiliary
  | split built =>
    obtain ⟨-, rfl⟩ := split_eq_ok_iff.mp built
    simp [Bounded, Pool.uniform]

theorem Declared.bounded {layout : Layout} (declared : layout.Declared) : layout.Bounded := by
  induction declared with
  | first built => exact bounded_of_first built
  | primary _ name rows bounded => exact bounded.push nofun
  | auxiliary _ added bounded =>
    obtain ⟨-, -, few, rfl⟩ := addAuxiliary_eq_ok_iff.mp added
    exact bounded.push fun _ => by simpa [Pool.uniform] using few

theorem row_of_mapM {pools : List Pool} {node : Nat} {counts : List UInt32}
    (found : (pools.mapM fun pool => pool.rows[node]?) = some counts) :
    ∀ pool ∈ pools, node < pool.rows.size := by
  induction pools generalizing counts with
  | nil => nofun
  | cons pool rest ih =>
    rw [List.mapM_cons] at found
    obtain ⟨row, here, found⟩ := Option.bind_eq_some_iff.mp found
    obtain ⟨more, later, -⟩ := Option.bind_eq_some_iff.mp found
    rw [List.forall_mem_cons]
    exact ⟨(Array.getElem?_eq_some_iff.mp here).1, ih later⟩

theorem toNat_of_load? {layout : Layout} {node : Nat} {requested : UInt64}
    (few : layout.pools.length ≤ 2 ^ 32) (loaded : layout.load? node = some requested) :
    requested.toNat = layout.demand node := by
  obtain ⟨counts, found, -⟩ := Option.map_eq_some_iff.mp loaded
  obtain ⟨exactly, same, sum⟩ := load?_exact few (row_of_mapM found)
  rw [loaded, Option.some.injEq] at same
  rw [same, sum]

theorem exists_load? {layout : Layout} (shaped : layout.shapeFault = none) {node : Nat}
    (inside : node < layout.cluster.nodes.toNat) :
    ∃ requested, layout.load? node = some requested := by
  have rows := forall_mem_primaryPools.mpr (shapeFault_eq_none_iff.mp shaped).1
  exact ⟨_, load?_of_rows fun pool member => (rows pool member).symm ▸ inside⟩

end Layout

namespace Plan

/-- No pool has too many rows, and every figure of the plan is the exact sum, far from the end of a
word. With few auxiliary pools this holds of the sum of all pools, too, at each of its steps. -/
structure Fits (plan : Plan) : Prop where
  rows : ∀ pool ∈ plan.pools, 1 ≤ pool.rows.size ∧ pool.rows.size ≤ maxNodes.toNat
  pool : ∀ pool ∈ plan.pools, pool.totalDevices.toNat = pool.devices ∧ pool.devices < 2 ^ 48
  primary : plan.primaryDevices.toNat = (plan.primaryPools.map Pool.devices).sum ∧
    (plan.primaryPools.map Pool.devices).sum < 2 ^ 48
  total : (plan.pools.filter Pool.isAuxiliary).length < 2 ^ 16 - 1 →
    plan.totalDevices.toNat = (plan.pools.map Pool.devices).sum ∧
    ∀ count, (deviceSum ((plan.pools.take count).map Pool.totalDevices)).toNat =
        ((plan.pools.take count).map Pool.devices).sum ∧
      ((plan.pools.take count).map Pool.devices).sum < 2 ^ 64

theorem sum_devices_lt {plan : Plan} (small : ∀ pool ∈ plan.pools, pool.devices < 2 ^ 48)
    (primary : (plan.primaryPools.map Pool.devices).sum < 2 ^ 48) :
    (plan.pools.map Pool.devices).sum <
      ((plan.pools.filter Pool.isAuxiliary).length + 1) * 2 ^ 48 := by
  have auxiliary : ((plan.pools.filter Pool.isAuxiliary).map Pool.devices).sum ≤
      (plan.pools.filter Pool.isAuxiliary).length * (2 ^ 48 - 1) :=
    sum_devices_le fun pool member => small pool (List.mem_filter.mp member).1
  have parts := sum_devices_filter plan.pools
  rw [primaryPools] at primary
  omega

theorem fits_of_rows {plan : Plan}
    (rows : ∀ pool ∈ plan.pools, 1 ≤ pool.rows.size ∧ pool.rows.size ≤ 65536)
    (primary : (plan.primaryPools.map Pool.devices).sum < 2 ^ 48) : plan.Fits := by
  have small : ∀ pool ∈ plan.pools, pool.devices < 2 ^ 48 := fun pool member =>
    Pool.devices_lt (rows pool member).2
  refine ⟨rows, fun pool member => ⟨Pool.toNat_totalDevices ?_, small pool member⟩,
    ⟨toNat_primaryDevices ?_, primary⟩, fun few => ?_⟩
  · exact (small pool member).trans (by decide)
  · exact primary.trans (by decide)
  · have bound := sum_devices_lt small primary
    have whole : (plan.pools.map Pool.devices).sum < 2 ^ 64 := by omega
    refine ⟨toNat_deviceSum_pools whole, fun count => ?_⟩
    have part := (sum_devices_take_le plan.pools count).trans_lt whole
    exact ⟨toNat_deviceSum_pools part, part⟩

theorem fits_of_freeze {layout : Layout} {bindings : Bindings} {plan : Plan}
    (declared : layout.Declared) (few : layout.pools.length ≤ 2 ^ 32)
    (frozen : freeze layout bindings = .ok plan) : plan.Fits := by
  obtain ⟨faultless, rfl⟩ := freeze_eq_ok_iff.mp frozen
  have admits := (Layout.fault_eq_none_iff_admits few).mp faultless
  refine fits_of_rows ?_ ?_
  · intro pool member
    cases kind : pool.provisioning with
    | primary =>
      rw [admits.primaryRows pool member kind]
      exact layout.cluster.nodes_bounds
    | auxiliary =>
      exact ⟨(admits.auxiliaryRows pool member kind).1, declared.bounded pool member kind⟩
  · refine (sum_devices_primary_le ?_ admits.withinBudget).trans_lt layout.cluster.devices_lt
    exact Layout.forall_mem_primaryPools.mpr admits.primaryRows

end Plan

namespace Policy

theorem declared_layout {policy : Policy} {cluster : Cluster} {names : PoolNames}
    (wideEnough : policy.sharing = .split → 2 ≤ cluster.devicesPerNode.toNat)
    (requestFits : ∀ request ∈ policy.auxiliary, request.Fits) :
    (policy.layout cluster names).Declared := by
  have primary : Layout.Declared ⟨cluster, policy.primaryPools cluster names⟩ := by
    unfold primaryPools
    split
    · exact .first (.colocated cluster names.global)
    · rename_i split
      exact .first (.split (Layout.split_eq_ok_iff.mpr ⟨wideEnough split, rfl⟩))
  unfold layout auxiliaryPools
  cases asked : policy.auxiliary with
  | none => simpa using primary
  | some request =>
    obtain ⟨devices, nodes, few⟩ := requestFits request asked
    exact .auxiliary primary (Layout.addAuxiliary_eq_ok_iff.mpr ⟨devices, nodes, few, rfl⟩)

theorem length_auxiliary_layout_le (policy : Policy) (cluster : Cluster) (names : PoolNames) :
    ((policy.layout cluster names).pools.filter Pool.isAuxiliary).length ≤ 1 := by
  obtain ⟨sharing, auxiliary⟩ := policy
  cases sharing <;> cases auxiliary <;>
    simp [layout, primaryPools, auxiliaryPools, Pool.isAuxiliary, Pool.uniform]

end Policy

namespace Plan

theorem fits_of_place {cluster : Cluster} {policy : Policy} {names : PoolNames}
    {overrides : List (Role × String)} {plan : Plan}
    (placed : (place cluster policy names overrides).outcome = .ok plan) :
    plan.Fits ∧ (plan.pools.filter Pool.isAuxiliary).length ≤ 1 := by
  have frozen := freeze_of_place placed
  obtain ⟨placeable, rfl⟩ := place_eq_ok_iff.mp placed
  have few : (policy.layout cluster names).pools.length ≤ 2 ^ 32 :=
    (policy.length_layout_le cluster names).trans (by decide)
  have declared : (policy.layout cluster names).Declared :=
    Policy.declared_layout placeable.wideEnough placeable.requestFits
  exact ⟨fits_of_freeze declared few frozen, policy.length_auxiliary_layout_le cluster names⟩

theorem sums_never_wrap :
    (∀ nodes devicesPerNode cluster, Cluster.ofCounts nodes devicesPerNode = .ok cluster →
      cluster.totalDevices.toNat = nodes.toNat * devicesPerNode.toNat ∧
        nodes.toNat * devicesPerNode.toNat < 2 ^ 48) ∧
    (∀ layout : Layout, layout.Declared → layout.pools.length ≤ 2 ^ 32 →
      (∀ node requested, layout.load? node = some requested →
        requested.toNat = layout.demand node) ∧
      (layout.shapeFault = none → ∀ node < layout.cluster.nodes.toNat,
        ∃ requested, layout.load? node = some requested) ∧
      ∀ bindings plan, freeze layout bindings = .ok plan → plan.Fits) ∧
    ∀ (cluster : Cluster) (policy : Policy) (names : PoolNames)
      (overrides : List (Role × String)) (plan : Plan),
      (place cluster policy names overrides).outcome = .ok plan →
      plan.totalDevices.toNat = (plan.pools.map Pool.devices).sum ∧
        (plan.pools.map Pool.devices).sum < 2 ^ 49 := by
  refine ⟨?_, ?_, ?_⟩
  · intro nodes devicesPerNode cluster accepted
    obtain ⟨rfl, rfl⟩ := Cluster.ofCounts_eq_ok_iff.mp accepted
    exact ⟨cluster.toNat_totalDevices, cluster.devices_lt⟩
  · intro layout declared few
    exact ⟨fun _ _ => Layout.toNat_of_load? few, fun shaped _ => Layout.exists_load? shaped,
      fun _ _ => fits_of_freeze declared few⟩
  · intro cluster policy names overrides plan placed
    obtain ⟨fits, few⟩ := fits_of_place placed
    have bound := sum_devices_lt (fun pool member => (fits.pool pool member).2) fits.primary.2
    exact ⟨(fits.total (by omega)).1, by omega⟩

theorem fullNodes_declared : fullNodes.Declared := by
  have first := (Layout.Declared.first (.empty fullNodes.cluster)).primary "first" #[1, 3]
  have own : (Layout.addPrimary (.empty fullNodes.cluster) "first" #[1, 3]).addAuxiliary "own" 8 1 =
      .ok _ := rfl
  exact (first.auxiliary own).primary "second" #[3, 1]

theorem fullNodes_sums : fullNodes.Declared ∧ fullNodes.load? 1 = some 4 ∧
    (∃ plan, freeze fullNodes (.split "first" "second") = .ok plan ∧ plan.Fits) ∧
    (∃ cluster, Cluster.ofCounts 65536 4294967295 = .ok cluster ∧
      cluster.totalDevices.toNat = 65536 * 4294967295) ∧
    ∃ plan, (place ⟨2, 3, by decide, by decide, by decide⟩ .oddSplit .standard []).outcome =
      .ok plan ∧ (plan.pools.map Pool.devices).sum < 2 ^ 49 := by
  obtain ⟨clusters, layouts, placements⟩ := sums_never_wrap
  obtain ⟨-, -, fits⟩ := layouts fullNodes fullNodes_declared (by decide)
  have placed : (place ⟨2, 3, by decide, by decide, by decide⟩ .oddSplit .standard []).outcome =
      .ok _ := place_eq_ok_iff.mpr ⟨oddSplit_placeable, rfl⟩
  refine ⟨fullNodes_declared, by decide, ⟨_, freeze_fullNodes, fits _ _ freeze_fullNodes⟩, ?_,
    ⟨_, placed, (placements _ _ _ _ _ placed).2⟩⟩
  have accepted : Cluster.ofCounts 65536 4294967295 =
      .ok ⟨65536, 4294967295, by decide, by decide, by decide⟩ := rfl
  exact ⟨_, accepted, (clusters _ _ _ accepted).1⟩

end Plan

end DevicePlan
