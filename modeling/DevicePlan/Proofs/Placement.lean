import DevicePlan.Proofs.Overrides
import DevicePlan.Proofs.Views

/-!
# What a placement is

The pools that a policy declares and the pools that it gives its roles, in closed form. Every layout
that a policy declares has the right rows and stays within the budget of every node, whatever the
cluster (`layout_admits_iff`). So a placement fails only for a split of single devices, a bad
request, an override onto a foreign pool or names that collide (`place_exactly`).
-/

namespace DevicePlan

def AuxiliaryRequest.Fits (request : AuxiliaryRequest) : Prop :=
  0 < request.devicesPerNode.toNat ∧ 0 < request.nodes.toNat ∧ request.nodes.toNat ≤ 65536

namespace Policy

def primaryPools (policy : Policy) (cluster : Cluster) (names : PoolNames) : List Pool :=
  match policy.sharing with
  | .colocated => [.uniform names.global cluster.devicesPerNode cluster.nodes .primary]
  | .split =>
    [.uniform names.actor (Layout.firstShare cluster.devicesPerNode) cluster.nodes .primary,
      .uniform names.critic (Layout.secondShare cluster.devicesPerNode) cluster.nodes .primary]

def auxiliaryPools (policy : Policy) (names : PoolNames) : List Pool :=
  policy.auxiliary.toList.map fun request =>
    .uniform names.reward request.devicesPerNode request.nodes .auxiliary

def layout (policy : Policy) (cluster : Cluster) (names : PoolNames) : Layout :=
  ⟨cluster, policy.primaryPools cluster names ++ policy.auxiliaryPools names⟩

def figures (policy : Policy) (cluster : Cluster) (names : PoolNames) :
    List (String × List Nat × Provisioning) :=
  let row := List.replicate cluster.nodes.toNat
  let devices := cluster.devicesPerNode.toNat
  (match policy.sharing with
    | .colocated => [(names.global, row devices, .primary)]
    | .split =>
      [(names.actor, row ((devices + 1) / 2), .primary),
        (names.critic, row (devices / 2), .primary)]) ++
    policy.auxiliary.toList.map fun request =>
      (names.reward, List.replicate request.nodes.toNat request.devicesPerNode.toNat, .auxiliary)

def poolNames (policy : Policy) (names : PoolNames) : List String :=
  (match policy.sharing with
    | .colocated => [names.global]
    | .split => [names.actor, names.critic]) ++
    policy.auxiliary.toList.map fun _ => names.reward

def ownPool (policy : Policy) (names : PoolNames) : Role → Option String
  | .actorRollout | .reference => some (names.actorPool policy)
  | .critic =>
    match policy.sharing with
    | .colocated => some names.global
    | .split => some names.critic
  | .rewardModel =>
    if policy.auxiliary.any AuxiliaryRequest.bindRewardModel then some names.reward else none

def ownBindings (policy : Policy) (names : PoolNames) : Bindings :=
  if policy.auxiliary.any AuxiliaryRequest.bindRewardModel then
    (policy.primaryBindings names).bind .rewardModel names.reward
  else policy.primaryBindings names

structure Placeable (policy : Policy) (cluster : Cluster) (names : PoolNames)
    (overrides : List (Role × String)) : Prop where
  wideEnough : policy.sharing = .split → 2 ≤ cluster.devicesPerNode.toNat
  requestFits : ∀ request ∈ policy.auxiliary, request.Fits
  known : ∀ entry ∈ overrides, entry.2 ∈ policy.poolNames names
  distinct : (policy.poolNames names).Nodup

theorem figures_layout (policy : Policy) (cluster : Cluster) (names : PoolNames) :
    (policy.layout cluster names).pools.map Pool.figures = policy.figures cluster names := by
  obtain ⟨sharing, auxiliary⟩ := policy
  cases sharing <;> cases auxiliary <;>
    simp [layout, primaryPools, auxiliaryPools, figures, Pool.figures_uniform,
      Layout.toNat_firstShare, Layout.toNat_secondShare]

theorem names_layout (policy : Policy) (cluster : Cluster) (names : PoolNames) :
    (policy.layout cluster names).names = policy.poolNames names := by
  obtain ⟨sharing, auxiliary⟩ := policy
  cases sharing <;> cases auxiliary <;> rfl

theorem get_ownBindings (policy : Policy) (names : PoolNames) (role : Role) :
    (policy.ownBindings names).get role = policy.ownPool names role := by
  have primary : (policy.primaryBindings names).get role =
      if role = .rewardModel then none else policy.ownPool names role := by
    obtain ⟨sharing, auxiliary⟩ := policy
    cases sharing <;> cases role <;> rfl
  unfold ownBindings
  split
  · rename_i bound
    rw [Bindings.get_bind, primary]
    by_cases reward : role = .rewardModel
    · simp [reward, ownPool, bound]
    · simp [reward]
  · rename_i unbound
    rw [primary]
    by_cases reward : role = .rewardModel
    · simp [reward, ownPool, unbound]
    · simp [reward]

theorem ownPool_mem {policy : Policy} {names : PoolNames} {role : Role} {pool : String}
    (own : policy.ownPool names role = some pool) : pool ∈ policy.poolNames names := by
  obtain ⟨sharing, auxiliary⟩ := policy
  cases sharing <;> cases auxiliary <;> cases role <;>
    simp_all [ownPool, poolNames, PoolNames.actorPool]

theorem isPrimary_of_mem {policy : Policy} {cluster : Cluster} {names : PoolNames} {pool : Pool}
    (member : pool ∈ policy.primaryPools cluster names) :
    pool.provisioning = .primary ∧ pool.rows.size = cluster.nodes.toNat := by
  unfold primaryPools at member
  split at member
  · obtain rfl := List.mem_singleton.mp member
    simp [Pool.uniform]
  · simp only [List.mem_cons, List.not_mem_nil, or_false] at member
    rcases member with rfl | rfl <;> simp [Pool.uniform]

theorem isAuxiliary_of_mem {policy : Policy} {names : PoolNames} {pool : Pool}
    (requestFits : ∀ request ∈ policy.auxiliary, request.Fits)
    (member : pool ∈ policy.auxiliaryPools names) :
    pool.provisioning = .auxiliary ∧ 0 < pool.rows.size ∧ 0 ∉ pool.rows := by
  obtain ⟨request, requested, rfl⟩ := List.mem_map.mp member
  obtain ⟨devices, nodes, -⟩ := requestFits request (Option.mem_toList.mp requested)
  refine ⟨rfl, by simpa [Pool.uniform] using nodes, ?_⟩
  intro empty
  have none : (0 : UInt32) = request.devicesPerNode := (Array.mem_replicate.mp empty).2
  rw [← none] at devices
  cases devices

theorem primaryPools_layout {policy : Policy} {cluster : Cluster} {names : PoolNames} :
    (policy.layout cluster names).primaryPools = policy.primaryPools cluster names := by
  obtain ⟨sharing, auxiliary⟩ := policy
  cases sharing <;> cases auxiliary <;> rfl

theorem demand_layout {policy : Policy} {cluster : Cluster} {names : PoolNames} {node : Nat}
    (inside : node < cluster.nodes.toNat) :
    (policy.layout cluster names).demand node = cluster.devicesPerNode.toNat := by
  have row (name : String) (count : UInt32) :
      (Pool.uniform name count cluster.nodes .primary).rows.getD node 0 = count := by
    simp [Pool.uniform, inside]
  rw [Layout.demand, primaryPools_layout]
  unfold primaryPools
  split
  · simp only [List.map_cons, List.map_nil, List.sum_cons, List.sum_nil, row, Nat.add_zero]
  · simp only [List.map_cons, List.map_nil, List.sum_cons, List.sum_nil, row,
      Layout.toNat_firstShare, Layout.toNat_secondShare]
    omega

theorem layout_admits_iff {policy : Policy} {cluster : Cluster} {names : PoolNames}
    {bindings : Bindings}
    (requestFits : ∀ request ∈ policy.auxiliary, request.Fits) :
    (policy.layout cluster names).Admits bindings ↔ (policy.poolNames names).Nodup ∧
      ∀ role name, bindings.get role = some name → name ∈ policy.poolNames names := by
  rw [← policy.names_layout cluster names]
  constructor
  · intro admits
    exact ⟨admits.distinct, admits.declared⟩
  · rintro ⟨distinct, declared⟩
    refine ⟨distinct, declared, ?_, ?_, fun node inside => (demand_layout inside).le⟩
    · intro pool member primary
      rcases List.mem_append.mp member with member | member
      · exact (isPrimary_of_mem member).2
      · rw [(isAuxiliary_of_mem requestFits member).1] at primary
        cases primary
    · intro pool member auxiliary
      rcases List.mem_append.mp member with member | member
      · rw [(isPrimary_of_mem member).1] at auxiliary
        cases auxiliary
      · exact (isAuxiliary_of_mem requestFits member).2

theorem length_layout_le (policy : Policy) (cluster : Cluster) (names : PoolNames) :
    (policy.layout cluster names).pools.length ≤ 3 := by
  obtain ⟨sharing, auxiliary⟩ := policy
  cases sharing <;> cases auxiliary <;> simp [layout, primaryPools, auxiliaryPools]

theorem fault_layout_eq_none_iff {policy : Policy} {cluster : Cluster} {names : PoolNames}
    {overrides : List (Role × String)}
    (requestFits : ∀ request ∈ policy.auxiliary, request.Fits)
    (known : ∀ entry ∈ overrides, entry.2 ∈ policy.poolNames names) :
    (policy.layout cluster names).fault ((policy.ownBindings names).bindAll overrides) = none ↔
      (policy.poolNames names).Nodup := by
  have few : (policy.layout cluster names).pools.length ≤ 2 ^ 32 :=
    (policy.length_layout_le cluster names).trans (by decide)
  rw [Layout.fault_eq_none_iff_admits few, layout_admits_iff requestFits]
  -- Whatever is bound was bound by an override, which is known, or by the policy itself.
  refine and_iff_left fun role name bound => ?_
  rw [Bindings.get_bindAll, get_ownBindings, Option.or_eq_some_iff] at bound
  rcases bound with last | ⟨-, own⟩
  · exact known (role, name) (mem_of_lastPool last)
  · exact ownPool_mem own

theorem runPrimary_eq_ok_iff {policy : Policy} {cluster : Cluster} {names : PoolNames}
    {layout : Layout} : (policy.runPrimary cluster names).outcome = .ok layout ↔
      (policy.sharing = .split → 2 ≤ cluster.devicesPerNode.toNat) ∧
        layout = ⟨cluster, policy.primaryPools cluster names⟩ := by
  obtain ⟨sharing, auxiliary⟩ := policy
  cases sharing with
  | colocated =>
    simp [runPrimary, Layout.runColocated, primaryPools, Layout.colocated, Layout.empty,
      Layout.push, eq_comm]
  | split => simp [runPrimary, Layout.runSplit, primaryPools, Layout.split_eq_ok_iff]

theorem bindReward_eq_ok {policy : Policy} {names : PoolNames} {request : AuxiliaryRequest}
    (asked : policy.auxiliary = some request) {layout : Layout}
    (declared : names.reward ∈ layout.names) :
    (if request.bindRewardModel then do
        let bindings ← (policy.primaryBindings names).runAttach layout .rewardModel names.reward
        pure (layout, bindings)
      else pure (layout, policy.primaryBindings names) : Run (Layout × Bindings)).outcome =
      .ok (layout, policy.ownBindings names) := by
  have attached : (policy.primaryBindings names).attach layout .rewardModel names.reward =
      .ok ((policy.primaryBindings names).bind .rewardModel names.reward) :=
    Bindings.attach_eq_ok_iff.mpr ⟨declared, rfl⟩
  cases binds : request.bindRewardModel with
  | false => simp [ownBindings, asked, binds]
  | true =>
    rw [if_pos rfl, Run.outcome_bind_eq_ok]
    refine ⟨_, (Bindings.outcome_runAttach ..).trans attached, ?_⟩
    simp [ownBindings, asked, binds]

theorem runAuxiliary_eq_ok_iff {policy : Policy} {names : PoolNames} {layout : Layout}
    {result : Layout × Bindings} :
    (policy.runAuxiliary names layout (policy.primaryBindings names)).outcome = .ok result ↔
      (∀ request ∈ policy.auxiliary, request.Fits) ∧
        result = (⟨layout.cluster, layout.pools ++ policy.auxiliaryPools names⟩,
          policy.ownBindings names) := by
  cases asked : policy.auxiliary with
  | none => simp [runAuxiliary, auxiliaryPools, ownBindings, asked, eq_comm]
  | some request =>
    have pools : (⟨layout.cluster, layout.pools ++ policy.auxiliaryPools names⟩ : Layout) =
        layout.push (.uniform names.reward request.devicesPerNode request.nodes .auxiliary) := by
      simp [auxiliaryPools, asked, Layout.push]
    have declared : names.reward ∈ (layout.push
        (.uniform names.reward request.devicesPerNode request.nodes .auxiliary)).names := by
      simp [Pool.uniform]
    simp only [runAuxiliary, asked, Run.outcome_bind_eq_ok, Layout.runAddAuxiliary,
      Run.outcome_reporting, Layout.addAuxiliary_eq_ok_iff, Option.mem_def, Option.some.injEq,
      forall_eq', pools]
    constructor
    · rintro ⟨extended, ⟨devices, nodes, few, rfl⟩, bound⟩
      rw [bindReward_eq_ok asked declared, Except.ok.injEq] at bound
      exact ⟨⟨devices, nodes, few⟩, bound.symm⟩
    · rintro ⟨⟨devices, nodes, few⟩, rfl⟩
      exact ⟨_, ⟨devices, nodes, few, rfl⟩, bindReward_eq_ok asked declared⟩

end Policy

theorem place_eq_ok_iff {cluster : Cluster} {policy : Policy} {names : PoolNames}
    {overrides : List (Role × String)} {plan : Plan} :
    (place cluster policy names overrides).outcome = .ok plan ↔
      policy.Placeable cluster names overrides ∧
        plan = ⟨cluster, (policy.layout cluster names).pools,
          (policy.ownBindings names).bindAll overrides⟩ := by
  simp only [place, Run.outcome_bind_eq_ok, Policy.runPrimary_eq_ok_iff,
    Policy.runAuxiliary_eq_ok_iff, Bindings.runAttachAll_eq_ok_iff, Run.outcome_report,
    Plan.runFreeze, Run.outcome_reporting, Plan.freeze_eq_ok_iff]
  constructor
  · rintro ⟨_, ⟨wideEnough, rfl⟩, _, ⟨requestFits, rfl⟩, _, ⟨known, rfl⟩, -, -, faultless, rfl⟩
    change ∀ entry ∈ overrides, entry.2 ∈ (policy.layout cluster names).names at known
    rw [Policy.names_layout] at known
    have distinct := (Policy.fault_layout_eq_none_iff requestFits known).mp faultless
    exact ⟨⟨wideEnough, requestFits, known, distinct⟩, rfl⟩
  · rintro ⟨⟨wideEnough, requestFits, known, distinct⟩, rfl⟩
    have faultless : (policy.layout cluster names).fault
        ((policy.ownBindings names).bindAll overrides) = none :=
      (Policy.fault_layout_eq_none_iff requestFits known).mpr distinct
    rw [← policy.names_layout cluster names] at known
    exact ⟨_, ⟨wideEnough, rfl⟩, _, ⟨requestFits, rfl⟩, _, ⟨known, rfl⟩, (), trivial, faultless,
      rfl⟩

section Placed

variable {cluster : Cluster} {policy : Policy} {names : PoolNames}
  {overrides : List (Role × String)} {plan : Plan}

theorem freeze_of_place (placed : (place cluster policy names overrides).outcome = .ok plan) :
    Plan.freeze (policy.layout cluster names) plan.bindings = .ok plan := by
  obtain ⟨placeable, rfl⟩ := place_eq_ok_iff.mp placed
  have faultless : (policy.layout cluster names).fault
      ((policy.ownBindings names).bindAll overrides) = none :=
    (Policy.fault_layout_eq_none_iff placeable.requestFits placeable.known).mpr placeable.distinct
  exact Plan.freeze_eq_ok_iff.mpr ⟨faultless, rfl⟩

theorem consistent_of_place (placed : (place cluster policy names overrides).outcome = .ok plan) :
    plan.Consistent :=
  Plan.consistent_of_freeze (freeze_of_place placed)

end Placed

theorem place_exactly (cluster : Cluster) (policy : Policy) (names : PoolNames)
    (overrides : List (Role × String)) :
    ((∃ plan, (place cluster policy names overrides).outcome = .ok plan) ↔
      policy.Placeable cluster names overrides) ∧
    ∀ plan, (place cluster policy names overrides).outcome = .ok plan →
      plan.cluster = cluster ∧
      plan.pools.map Pool.figures = policy.figures cluster names ∧
      ∀ role, plan.bindings.get role =
        (lastPool overrides role).or (policy.ownPool names role) := by
  constructor
  · simp only [place_eq_ok_iff, exists_and_left, exists_eq, and_true]
  · intro plan placed
    obtain ⟨-, rfl⟩ := place_eq_ok_iff.mp placed
    refine ⟨rfl, policy.figures_layout cluster names, fun role => ?_⟩
    rw [Bindings.get_bindAll, Policy.get_ownBindings]

def Policy.oddSplit : Policy := ⟨.split, some ⟨4, 1, true⟩⟩

theorem Policy.oddSplit_fits : ∀ request ∈ oddSplit.auxiliary, request.Fits := by
  rintro request ⟨rfl⟩
  exact ⟨by decide, by decide, by decide⟩

theorem place_oddSplit : ∃ plan,
    (place ⟨2, 3, by decide, by decide, by decide⟩ .oddSplit .standard
      [(.critic, "reward_pool"), (.critic, "actor_rollout_ref_pool")]).outcome = .ok plan ∧
    plan.pools.map Pool.figures = [("actor_rollout_ref_pool", [2, 2], .primary),
      ("critic_pool", [1, 1], .primary), ("reward_pool", [4], .auxiliary)] ∧
    plan.bindings.get .critic = some "actor_rollout_ref_pool" ∧
    plan.bindings.get .rewardModel = some "reward_pool" := by
  obtain ⟨accepted, result⟩ := place_exactly ⟨2, 3, by decide, by decide, by decide⟩ .oddSplit
    .standard [(.critic, "reward_pool"), (.critic, "actor_rollout_ref_pool")]
  have requestFits : ∀ request ∈ Policy.oddSplit.auxiliary, request.Fits := by
    rintro request ⟨rfl⟩
    exact ⟨by decide, by decide, by decide⟩
  obtain ⟨plan, placed⟩ := accepted.mpr ⟨by decide, requestFits, by decide, by decide⟩
  obtain ⟨-, pools, bound⟩ := result plan placed
  exact ⟨plan, placed, pools.trans rfl, (bound .critic).trans rfl, (bound .rewardModel).trans rfl⟩

end DevicePlan
