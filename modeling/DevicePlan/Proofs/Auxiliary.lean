import DevicePlan.Proofs.Devices
import DevicePlan.Proofs.Fault

namespace DevicePlan

namespace Layout

theorem firstRepeat_append (seen first second : List String) :
    firstRepeat seen (first ++ second) =
      (firstRepeat seen first).or (firstRepeat (first.reverse ++ seen) second) := by
  induction first generalizing seen with
  | nil => rfl
  | cons name rest ih =>
    by_cases known : name ∈ seen
    · simp [firstRepeat, known]
    · rw [List.cons_append, firstRepeat, if_neg known, ih, firstRepeat, if_neg known,
        List.reverse_cons, List.append_assoc, List.singleton_append]

theorem nameFault_push (layout : Layout) (pool : Pool) :
    (layout.push pool).nameFault = layout.nameFault.or
      (if pool.name ∈ layout.names then some (.duplicatePool pool.name) else none) := by
  have last : firstRepeat layout.names.reverse [pool.name] =
      if pool.name ∈ layout.names then some pool.name else none := by
    simp [firstRepeat]
  have repeated := firstRepeat_append [] layout.names [pool.name]
  rw [List.append_nil, last, ← names_push] at repeated
  rw [nameFault, ← names, repeated, Option.map_or, nameFault, ← names]
  split <;> rfl

theorem bindingFault_push {layout : Layout} {bindings : Bindings}
    (hosts : layout.bindingFault bindings = none) (pool : Pool) :
    (layout.push pool).bindingFault bindings = none := by
  rw [bindingFault_eq_none_iff] at hosts ⊢
  intro role name bound
  rw [names_push]
  exact List.mem_append_left _ (hosts role name bound)

theorem shapeFault_push (layout : Layout) (pool : Pool) :
    (layout.push pool).shapeFault = layout.shapeFault.or (layout.rowFault pool) := by
  have rows : (layout.push pool).rowFault = layout.rowFault := rfl
  rw [shapeFault, rows, push, List.findSome?_append, List.findSome?_singleton]
  rfl

theorem primaryPools_push {pool : Pool} (auxiliary : pool.provisioning = .auxiliary)
    (layout : Layout) : (layout.push pool).primaryPools = layout.primaryPools := by
  simp [primaryPools, push, Pool.isAuxiliary, auxiliary]

theorem budgetFault_push {pool : Pool} (auxiliary : pool.provisioning = .auxiliary)
    (layout : Layout) : (layout.push pool).budgetFault = layout.budgetFault := by
  simp only [budgetFault, load?, primaryPools_push auxiliary]
  rfl

theorem rowFault_uniform (layout : Layout) (name : String) {devicesPerNode nodes : UInt32}
    (someDevices : 0 < devicesPerNode.toNat) (someNodes : 0 < nodes.toNat) :
    layout.rowFault (.uniform name devicesPerNode nodes .auxiliary) = none := by
  refine rowFault_eq_none_iff.mpr ⟨nofun, fun _ => ⟨by simpa [Pool.uniform] using someNodes, ?_⟩⟩
  intro empty
  rw [← (Array.mem_replicate.mp empty).2] at someDevices
  cases someDevices

theorem fault_push {layout : Layout} {bindings : Bindings} {pool : Pool}
    (auxiliary : pool.provisioning = .auxiliary) (shaped : layout.rowFault pool = none)
    (hosts : layout.bindingFault bindings = none) :
    (layout.push pool).fault bindings = if layout.nameFault = none ∧ pool.name ∈ layout.names then
      some (.duplicatePool pool.name) else layout.fault bindings := by
  simp only [fault, nameFault_push, bindingFault_push hosts, shapeFault_push, shaped,
    budgetFault_push auxiliary, hosts]
  cases layout.nameFault with
  | some error => simp
  | none => by_cases taken : pool.name ∈ layout.names <;> simp [taken]

/-- A fault that the pool has nothing to do with stays: only a role without its pool can be helped
by one more pool, and only a name can be taken. -/
theorem fault_push_eq_some {layout : Layout} {bindings : Bindings} {pool : Pool}
    {error : PlanError} (auxiliary : pool.provisioning = .auxiliary)
    (shaped : layout.rowFault pool = none) (fresh : pool.name ∉ layout.names)
    (hosted : ∀ role name, error ≠ .unknownPool role name)
    (found : layout.fault bindings = some error) :
    (layout.push pool).fault bindings = some error := by
  rcases fault_eq_some_iff.mp found with repeated | ⟨-, unbound | ⟨hosts, -⟩⟩
  · refine fault_eq_some_iff.mpr (.inl ?_)
    rw [nameFault_push, repeated, Option.some_or]
  · obtain ⟨role, name, -, -, unknown, -⟩ := bindingFault_eq_some_iff.mp unbound
    exact absurd unknown (hosted role name)
  · rw [fault_push auxiliary shaped hosts, if_neg fun taken => fresh taken.2, found]

end Layout

namespace Plan

def annex (plan : Plan) (pool : Pool) : Plan :=
  { plan with pools := plan.pools ++ [pool] }

section Annex

variable {plan : Plan} {pool : Pool}

theorem resolve_annex (consistent : plan.Consistent) (pool : Pool) (role : Role) :
    (plan.annex pool).resolve role = plan.resolve role := by
  unfold resolve
  cases bound : plan.bindings.get role with
  | none => simp [annex, bound]
  | some name =>
    obtain ⟨host, -, -, found⟩ := consistent.exists_pool bound
    have kept : (plan.annex pool).pool? name = some host := by
      rw [pool?] at found
      rw [pool?, annex, List.find?_append, found, Option.some_or]
    have same : (plan.annex pool).bindings.get role = some name := bound
    simp only [same, kept, found]

theorem rolesByPool_annex (consistent : plan.Consistent)
    (fresh : pool.name ∉ plan.pools.map Pool.name) :
    (plan.annex pool).rolesByPool = plan.rolesByPool ++ [(pool, [])] := by
  have idle : plan.bindings.rolesOf pool.name = [] := by
    rw [List.eq_nil_iff_forall_not_mem]
    intro role hosted
    exact fresh (consistent.declared role pool.name (Bindings.mem_rolesOf.mp hosted))
  rw [rolesByPool, rolesByPool, annex, List.map_append, List.map_singleton, idle]

theorem primaryDevices_annex (auxiliary : pool.provisioning = .auxiliary) :
    (plan.annex pool).primaryDevices = plan.primaryDevices := by
  simp [primaryDevices, annex, Pool.isAuxiliary, auxiliary]

theorem totalDevices_annex
    (bound : ((plan.annex pool).pools.map Pool.devices).sum < 2 ^ 64) :
    (plan.annex pool).totalDevices.toNat = plan.totalDevices.toNat + pool.devices := by
  have parts : ((plan.annex pool).pools.map Pool.devices).sum =
      (plan.pools.map Pool.devices).sum + pool.devices := by
    simp [annex]
  have before : (plan.pools.map Pool.devices).sum < 2 ^ 64 := by omega
  rw [totalDevices, toNat_deviceSum_pools bound, parts, totalDevices,
    toNat_deviceSum_pools before]

end Annex

structure Gains (plan other : Plan) (name : String) (devicesPerNode nodes : UInt32) : Prop where
  cluster : other.cluster = plan.cluster
  bindings : other.bindings = plan.bindings
  pools : other.pools = plan.pools ++ [.uniform name devicesPerNode nodes .auxiliary]
  primaryDevices : other.primaryDevices = plan.primaryDevices
  totalDevices : (other.pools.map Pool.devices).sum < 2 ^ 64 → other.totalDevices.toNat =
    plan.totalDevices.toNat + devicesPerNode.toNat * nodes.toNat
  resolve : ∀ role, other.resolve role = plan.resolve role
  rolesByPool : other.rolesByPool =
    plan.rolesByPool ++ [(.uniform name devicesPerNode nodes .auxiliary, [])]

theorem gains_annex {plan : Plan} (consistent : plan.Consistent) {name : String}
    (fresh : name ∉ plan.pools.map Pool.name) (devicesPerNode nodes : UInt32) :
    plan.Gains (plan.annex (.uniform name devicesPerNode nodes .auxiliary)) name devicesPerNode
      nodes where
  cluster := rfl
  bindings := rfl
  pools := rfl
  primaryDevices := primaryDevices_annex rfl
  totalDevices := by
    intro bound
    rw [totalDevices_annex bound, Pool.devices_uniform, Nat.mul_comm]
  resolve := resolve_annex consistent _
  rolesByPool := rolesByPool_annex consistent fresh

theorem freeze_addAuxiliary {layout extended : Layout} {name : String}
    {devicesPerNode nodes : UInt32}
    (added : layout.addAuxiliary name devicesPerNode nodes = .ok extended) (bindings : Bindings) :
    (∀ plan, freeze layout bindings = .ok plan →
      ((∃ other, freeze extended bindings = .ok other) ↔ name ∉ layout.names) ∧
      (∀ other, freeze extended bindings = .ok other →
        plan.Gains other name devicesPerNode nodes) ∧
      (name ∈ layout.names → freeze extended bindings = .error (.duplicatePool name))) ∧
    ∀ error, freeze layout bindings = .error error → name ∉ layout.names →
      (∀ role pool, error ≠ .unknownPool role pool) →
      freeze extended bindings = .error error := by
  obtain ⟨someDevices, someNodes, -, rfl⟩ := Layout.addAuxiliary_eq_ok_iff.mp added
  have shaped := Layout.rowFault_uniform layout name someDevices someNodes
  constructor
  · intro plan frozen
    have consistent := consistent_of_freeze frozen
    obtain ⟨faultless, rfl⟩ := freeze_eq_ok_iff.mp frozen
    obtain ⟨names, hosts, -⟩ := Layout.fault_eq_none_iff.mp faultless
    have checked := Layout.fault_push rfl shaped hosts
    by_cases taken : name ∈ layout.names
    · rw [if_pos ⟨names, taken⟩] at checked
      have refused := freeze_eq_error_iff.mpr checked
      refine ⟨?_, ?_, fun _ => refused⟩
      · simp [refused, taken]
      · simp [refused]
    · rw [if_neg fun repeated => taken repeated.2, faultless] at checked
      refine ⟨?_, ?_, fun known => absurd known taken⟩
      · exact iff_of_true ⟨_, freeze_eq_ok_iff.mpr ⟨checked, rfl⟩⟩ taken
      · intro other extended
        obtain ⟨-, rfl⟩ := freeze_eq_ok_iff.mp extended
        exact gains_annex consistent taken devicesPerNode nodes
  · intro error failed fresh hosted
    rw [freeze_eq_error_iff] at failed ⊢
    exact Layout.fault_push_eq_some rfl shaped fresh hosted failed

theorem freeze_addAuxiliary_wide :
    (∃ other, freeze (fullNodes.push (.uniform "wide" 9 3 .auxiliary))
        (.split "first" "second") = .ok other ∧
      other.primaryDevices = 8 ∧ other.totalDevices.toNat = 16 + 9 * 3 ∧
      other.resolve .reference = .ok ⟨"first", #[1, 3], .primary⟩) ∧
    freeze (fullNodes.push (.uniform "own" 9 3 .auxiliary)) (.split "first" "second") =
      .error (.duplicatePool "own") ∧
    freeze (crowded.push (.uniform "wide" 9 3 .auxiliary)) (.split "first" "own") =
      .error (.overAllocation 2 9 8) := by
  have failed : freeze crowded (.split "first" "own") = .error (.overAllocation 2 9 8) := by
    decide +kernel
  have wide : fullNodes.addAuxiliary "wide" 9 3 =
      .ok (fullNodes.push (.uniform "wide" 9 3 .auxiliary)) := rfl
  have own : fullNodes.addAuxiliary "own" 9 3 =
      .ok (fullNodes.push (.uniform "own" 9 3 .auxiliary)) := rfl
  have late : crowded.addAuxiliary "wide" 9 3 =
      .ok (crowded.push (.uniform "wide" 9 3 .auxiliary)) := rfl
  obtain ⟨accepted, gains, -⟩ := (freeze_addAuxiliary wide _).1 _ freeze_fullNodes
  obtain ⟨other, frozen⟩ := accepted.mpr (by decide)
  have gained := gains other frozen
  have few : (other.pools.map Pool.devices).sum < 2 ^ 64 := by
    rw [gained.pools]
    decide
  refine ⟨⟨other, frozen, gained.primaryDevices.trans (by decide),
    (gained.totalDevices few).trans (by decide), (gained.resolve .reference).trans (by decide)⟩,
    ?_, ?_⟩
  · exact ((freeze_addAuxiliary own _).1 _ freeze_fullNodes).2.2 (by decide)
  · exact (freeze_addAuxiliary late _).2 _ failed (by decide) nofun

end Plan

end DevicePlan
