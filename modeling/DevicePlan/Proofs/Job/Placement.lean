import DevicePlan.Job.Placement
import DevicePlan.Proofs.Placement
import DevicePlan.Proofs.Views
import Mathlib.Data.Set.List

namespace DevicePlan

namespace Job

def RewardModel.Fits (rewardModel : RewardModel) : Prop :=
  (1 ≤ rewardModel.devicesPerNode.toInt ∧ rewardModel.devicesPerNode.toInt ≤ 2 ^ 32 - 1) ∧
    1 ≤ rewardModel.nodes.toInt ∧ rewardModel.nodes.toInt ≤ 65536

def declaredNames (job : Job) : List String :=
  (match job.placement.sharing with
    | .colocated => [job.poolNames.global]
    | .split => [job.poolNames.actor, job.poolNames.critic]) ++
    if job.wantsRewardPool then [job.poolNames.reward] else []

def actorPool (job : Job) : String :=
  match job.placement.sharing with
  | .colocated => job.poolNames.global
  | .split => job.poolNames.actor

def defaultPool (job : Job) : Role → Option String
  | .actorRollout | .reference => some job.actorPool
  | .critic =>
    match job.placement.sharing with
    | .colocated => some job.poolNames.global
    | .split => some job.poolNames.critic
  | .rewardModel => job.rewardModel.bind fun rewardModel =>
    if rewardModel.enabled then
      if rewardModel.ownPool then some job.poolNames.reward else some job.actorPool
    else none

def chosenPool (job : Job) (role : Role) : Option String :=
  (job.placement.overrides.get? role.name).or (job.defaultPool role)

structure Placeable (job : Job) : Prop where
  nodes : 1 ≤ job.trainer.nodes.toInt ∧ job.trainer.nodes.toInt ≤ 65536
  devices : 1 ≤ job.trainer.devicesPerNode.toInt ∧
    job.trainer.devicesPerNode.toInt ≤ 2 ^ 32 - 1
  wideEnough : job.placement.sharing = .split → 2 ≤ job.trainer.devicesPerNode.toInt
  rewardFits : ∀ rewardModel ∈ job.rewardModel, rewardModel.ownPool = true → rewardModel.Fits
  roles : ∀ entry ∈ job.placement.overrides.entries, ∃ role : Role, entry.1 = role.name
  known : ∀ entry ∈ job.placement.overrides.entries, entry.2 ∈ job.declaredNames
  distinct : job.declaredNames.Nodup

end Job

/-! ## Counts -/

theorem positiveCount?_eq_some_iff {value : Int64} {count : UInt32} :
    positiveCount? value = some count ↔
      0 < count.toNat ∧ (count.toNat : Int) = value.toInt := by
  have small := count.toNat_lt
  unfold positiveCount?
  split
  · rename_i inside
    have below : value.toInt.toNat < 2 ^ 32 := by omega
    have exactly : (UInt32.ofNat value.toInt.toNat).toNat = value.toInt.toNat :=
      UInt32.toNat_ofNat_of_lt' below
    rw [Option.some.injEq, ← UInt32.toNat_inj, exactly]
    omega
  · rename_i outside
    simp only [reduceCtorEq, false_iff]
    omega

theorem exists_positiveCount_iff {value : Int64} :
    (∃ count, positiveCount? value = some count) ↔
      1 ≤ value.toInt ∧ value.toInt ≤ 2 ^ 32 - 1 := by
  unfold positiveCount?
  split
  · rename_i inside
    simp only [Option.some.injEq, exists_eq', true_iff]
    omega
  · rename_i outside
    simp only [reduceCtorEq, exists_false, false_iff]
    omega

theorem exists_nodeCount_iff {value : Int64} :
    (∃ count, positiveCount? value = some count ∧ count.toNat ≤ 65536) ↔
      1 ≤ value.toInt ∧ value.toInt ≤ 65536 := by
  constructor
  · rintro ⟨count, counted, few⟩
    obtain ⟨positive, exactly⟩ := positiveCount?_eq_some_iff.mp counted
    omega
  · rintro ⟨positive, few⟩
    obtain ⟨count, counted⟩ := exists_positiveCount_iff.mpr ⟨positive, few.trans (by decide)⟩
    obtain ⟨-, exactly⟩ := positiveCount?_eq_some_iff.mp counted
    exact ⟨count, counted, by omega⟩

namespace Job

theorem cluster_eq_ok_iff {job : Job} {cluster : Cluster} :
    job.cluster = .ok cluster ↔
      positiveCount? job.trainer.nodes = some cluster.nodes ∧
        positiveCount? job.trainer.devicesPerNode = some cluster.devicesPerNode := by
  unfold Job.cluster
  cases positiveCount? job.trainer.nodes with
  | none => simp
  | some nodes =>
    cases positiveCount? job.trainer.devicesPerNode with
    | none => simp
    | some devicesPerNode =>
      simp only [Cluster.ofCounts_eq_ok_iff, Option.some.injEq]
      exact and_congr eq_comm eq_comm

theorem exists_cluster_iff {job : Job} :
    (∃ cluster, job.cluster = .ok cluster) ↔
      (1 ≤ job.trainer.nodes.toInt ∧ job.trainer.nodes.toInt ≤ 65536) ∧
        1 ≤ job.trainer.devicesPerNode.toInt ∧ job.trainer.devicesPerNode.toInt ≤ 2 ^ 32 - 1 := by
  rw [← exists_nodeCount_iff, ← exists_positiveCount_iff]
  simp only [cluster_eq_ok_iff]
  constructor
  · rintro ⟨cluster, nodes, devices⟩
    exact ⟨⟨_, nodes, cluster.nodes_bounds.2⟩, _, devices⟩
  · rintro ⟨⟨count, nodes, few⟩, width, devices⟩
    obtain ⟨someNodes, -⟩ := positiveCount?_eq_some_iff.mp nodes
    obtain ⟨someDevices, -⟩ := positiveCount?_eq_some_iff.mp devices
    exact ⟨⟨count, width, UInt32.lt_iff_toNat_lt.mpr someNodes, UInt32.le_iff_toNat_le.mpr few,
      UInt32.lt_iff_toNat_lt.mpr someDevices⟩, nodes, devices⟩

/-! ## The policy -/

theorem RewardModel.request_eq_ok_iff {rewardModel : RewardModel} {request : AuxiliaryRequest} :
    rewardModel.request = .ok request ↔
      positiveCount? rewardModel.devicesPerNode = some request.devicesPerNode ∧
        positiveCount? rewardModel.nodes = some request.nodes ∧
        request.bindRewardModel = rewardModel.enabled := by
  obtain ⟨devicesPerNode, nodes, bindRewardModel⟩ := request
  unfold request
  cases positiveCount? rewardModel.devicesPerNode with
  | none => simp
  | some devicesPerNode =>
    cases positiveCount? rewardModel.nodes with
    | none => simp
    | some nodes => simp [eq_comm]

theorem RewardModel.fits_iff {rewardModel : RewardModel} :
    rewardModel.Fits ↔ ∃ request, rewardModel.request = .ok request ∧ request.Fits := by
  rw [Fits, ← exists_positiveCount_iff, ← exists_nodeCount_iff]
  constructor
  · rintro ⟨⟨devicesPerNode, devices⟩, count, nodes, few⟩
    obtain ⟨someDevices, -⟩ := positiveCount?_eq_some_iff.mp devices
    obtain ⟨someNodes, -⟩ := positiveCount?_eq_some_iff.mp nodes
    exact ⟨⟨devicesPerNode, count, rewardModel.enabled⟩,
      request_eq_ok_iff.mpr ⟨devices, nodes, rfl⟩, someDevices, someNodes, few⟩
  · rintro ⟨request, requested, -, -, few⟩
    obtain ⟨devices, nodes, -⟩ := request_eq_ok_iff.mp requested
    exact ⟨⟨_, devices⟩, _, nodes, few⟩

theorem policy_eq_ok_iff {job : Job} {policy : Policy} :
    job.policy = .ok policy ↔ policy.sharing = job.placement.sharing ∧
      policy.auxiliary.map .ok =
        (job.rewardModel.filter RewardModel.ownPool).map RewardModel.request := by
  obtain ⟨sharing, auxiliary⟩ := policy
  unfold Job.policy
  cases job.rewardModel.filter RewardModel.ownPool with
  | none => simp [eq_comm]
  | some rewardModel =>
    simp only [bind_eq_ok, Option.map_some]
    cases auxiliary with
    | none => simp [pure, Except.pure]
    | some request => simp [pure, Except.pure, eq_comm, and_comm]

section Policy

variable {job : Job} {policy : Policy}

theorem policy_cases (governed : job.policy = .ok policy) :
    (policy.auxiliary = none ∧ ∀ rewardModel ∈ job.rewardModel, rewardModel.ownPool = false) ∨
    ∃ rewardModel request, job.rewardModel = some rewardModel ∧ rewardModel.ownPool = true ∧
      policy.auxiliary = some request ∧ rewardModel.request = .ok request := by
  have requests := (policy_eq_ok_iff.mp governed).2
  cases asked : job.rewardModel.filter RewardModel.ownPool with
  | none =>
    rw [asked, Option.map_none, Option.map_eq_none_iff] at requests
    exact .inl ⟨requests, by simpa using Option.filter_eq_none_iff.mp asked⟩
  | some rewardModel =>
    obtain ⟨present, own⟩ := Option.filter_eq_some_iff.mp asked
    rw [asked, Option.map_some, Option.map_eq_some_iff] at requests
    obtain ⟨request, auxiliary, requested⟩ := requests
    exact .inr ⟨rewardModel, request, present, own, auxiliary, requested.symm⟩

theorem poolNames_policy (governed : job.policy = .ok policy) :
    policy.poolNames job.poolNames = job.declaredNames := by
  have sharing := (policy_eq_ok_iff.mp governed).1
  have wanted : policy.auxiliary.isSome = job.wantsRewardPool := by
    rcases policy_cases governed with ⟨absent, shared⟩ | ⟨rewardModel, _, present, own, asked, -⟩
    · cases present : job.rewardModel with
      | none => simp [absent, wantsRewardPool, present]
      | some rewardModel => simp [absent, wantsRewardPool, present, shared rewardModel present]
    · simp [asked, wantsRewardPool, present, own]
  rw [Policy.poolNames, declaredNames, sharing, ← wanted]
  cases job.placement.sharing <;> cases policy.auxiliary <;> rfl

theorem actorPool_policy (governed : job.policy = .ok policy) :
    job.poolNames.actorPool policy = job.actorPool := by
  have sharing := (policy_eq_ok_iff.mp governed).1
  cases kind : job.placement.sharing <;>
    simp [PoolNames.actorPool, actorPool, sharing, kind]

theorem requestFits_iff (governed : job.policy = .ok policy) :
    (∀ request ∈ policy.auxiliary, request.Fits) ↔
      ∀ rewardModel ∈ job.rewardModel, rewardModel.ownPool = true → rewardModel.Fits := by
  rcases policy_cases governed with
    ⟨absent, shared⟩ | ⟨rewardModel, request, present, own, asked, requested⟩
  · constructor
    · intro _ rewardModel present own
      rw [shared rewardModel present] at own
      cases own
    · intro _ request asked
      rw [absent] at asked
      cases asked
  · simp [asked, present, own, RewardModel.fits_iff, requested]

def sharedBindings (job : Job) : List (Role × String) :=
  if job.sharesRewardModel then [(.rewardModel, job.actorPool)] else []

theorem lastPool_sharedBindings (role : Role) :
    lastPool job.sharedBindings role =
      if job.sharesRewardModel ∧ role = .rewardModel then some job.actorPool else none := by
  unfold sharedBindings
  by_cases shares : job.sharesRewardModel = true
  · simp [shares, lastPool_cons]
  · simp [shares]

theorem defaultPool_policy (governed : job.policy = .ok policy) (role : Role) :
    (lastPool job.sharedBindings role).or (policy.ownPool job.poolNames role) =
      job.defaultPool role := by
  have sharing := (policy_eq_ok_iff.mp governed).1
  rw [lastPool_sharedBindings]
  cases role with
  | actorRollout | reference =>
    simp [Policy.ownPool, defaultPool, actorPool_policy governed]
  | critic =>
    simp only [Policy.ownPool, defaultPool, sharing]
    cases job.placement.sharing <;> simp
  | rewardModel =>
    simp only [Policy.ownPool, defaultPool, sharesRewardModel]
    rcases policy_cases governed with
      ⟨absent, shared⟩ | ⟨rewardModel, request, present, own, asked, requested⟩
    · cases present : job.rewardModel with
      | none => simp [absent]
      | some rewardModel => simp [absent, shared rewardModel present]
    · have binds := (RewardModel.request_eq_ok_iff.mp requested).2.2
      simp [present, own, asked, binds]

end Policy

/-! ## The overrides -/

theorem mapM_ofName_eq_ok_iff {entries : List (String × String)} {named : List (Role × String)} :
    (entries.mapM fun (name, pool) => do
      let role ← Role.ofName name
      return (role, pool)) = .ok named ↔
      entries = named.map fun entry => (entry.1.name, entry.2) := by
  induction entries generalizing named with
  | nil => cases named <;> simp [pure, Except.pure]
  | cons entry rest ih =>
    obtain ⟨name, pool⟩ := entry
    simp only [List.mapM_cons, bind_eq_ok, Role.ofName_eq_ok_iff, ih]
    cases named with
    | nil => simp [pure, Except.pure]
    | cons first later =>
      simp only [pure, Except.pure, Except.ok.injEq, List.map_cons, List.cons.injEq]
      constructor
      · rintro ⟨_, ⟨role, rfl, rfl⟩, _, rfl, rfl, rfl⟩
        exact ⟨rfl, rfl⟩
      · rintro ⟨head, rfl⟩
        obtain ⟨rfl, rfl⟩ := Prod.mk.inj head
        exact ⟨first, ⟨first.1, rfl, rfl⟩, later, rfl, rfl, rfl⟩

theorem namedOverrides_eq_ok_iff {job : Job} {named : List (Role × String)} :
    job.namedOverrides = .ok named ↔
      job.placement.overrides.entries = named.map fun entry => (entry.1.name, entry.2) :=
  mapM_ofName_eq_ok_iff

theorem exists_namedOverrides_iff {job : Job} :
    (∃ named, job.namedOverrides = .ok named) ↔
      ∀ entry ∈ job.placement.overrides.entries, ∃ role : Role, entry.1 = role.name := by
  simp only [namedOverrides_eq_ok_iff]
  constructor
  · rintro ⟨named, same⟩ entry member
    rw [same] at member
    obtain ⟨⟨role, pool⟩, -, rfl⟩ := List.mem_map.mp member
    exact ⟨role, rfl⟩
  · intro roles
    have written : job.placement.overrides.entries ∈
        Set.range (List.map fun entry : Role × String => (entry.1.name, entry.2)) := by
      rw [Set.range_list_map]
      intro entry member
      obtain ⟨role, named⟩ := roles entry member
      exact ⟨(role, entry.2), Prod.ext named.symm rfl⟩
    obtain ⟨named, same⟩ := written
    exact ⟨named, same.symm⟩

theorem lastPool_namedOverrides {job : Job} {named : List (Role × String)}
    (read : job.namedOverrides = .ok named) (role : Role) :
    lastPool named role = job.placement.overrides.get? role.name := by
  have entries := namedOverrides_eq_ok_iff.mp read
  have distinct : (named.map Prod.fst).Nodup := by
    have names := job.placement.overrides.nodup_names
    rw [entries, List.map_map] at names
    refine List.Nodup.of_map Role.name ?_
    rw [List.map_map]
    exact names
  ext pool
  rw [lastPool_eq_some_iff distinct, NameMap.get?_eq_some_iff, entries]
  simp

theorem overrides_eq_ok_iff {job : Job} {policy : Policy} (governed : job.policy = .ok policy)
    {overrides : List (Role × String)} :
    job.overrides job.poolNames policy = .ok overrides ↔
      ∃ named, job.namedOverrides = .ok named ∧ overrides = job.sharedBindings ++ named := by
  simp only [Job.overrides, bind_eq_ok, pure, Except.pure, Except.ok.injEq, sharedBindings,
    actorPool_policy governed]
  exact exists_congr fun named => and_congr_right fun _ => eq_comm

/-! ## The placement -/

theorem outcome_place_iff {job : Job} {plan : Plan} :
    job.place.outcome = .ok plan ↔ ∃ cluster policy overrides, job.cluster = .ok cluster ∧
      job.policy = .ok policy ∧ job.overrides job.poolNames policy = .ok overrides ∧
      (DevicePlan.place cluster policy job.poolNames overrides).outcome = .ok plan := by
  unfold Job.place
  cases job.cluster with
  | error error => simp
  | ok cluster =>
    cases job.policy with
    | error error => simp
    | ok policy => cases overridden : job.overrides job.poolNames policy <;> simp [overridden]

theorem exists_policy {job : Job}
    (rewardFits : ∀ rewardModel ∈ job.rewardModel, rewardModel.ownPool = true →
      rewardModel.Fits) : ∃ policy, job.policy = .ok policy := by
  cases asked : job.rewardModel.filter RewardModel.ownPool with
  | none => exact ⟨⟨job.placement.sharing, none⟩, policy_eq_ok_iff.mpr ⟨rfl, by rw [asked]; rfl⟩⟩
  | some rewardModel =>
    obtain ⟨present, own⟩ := Option.filter_eq_some_iff.mp asked
    obtain ⟨request, requested, -⟩ := RewardModel.fits_iff.mp (rewardFits rewardModel present own)
    exact ⟨⟨job.placement.sharing, some request⟩,
      policy_eq_ok_iff.mpr ⟨rfl, by rw [asked, Option.map_some, Option.map_some, requested]⟩⟩

theorem actorPool_mem (job : Job) : job.actorPool ∈ job.declaredNames := by
  unfold actorPool declaredNames
  cases job.placement.sharing <;> simp

/-- What the job adds by itself goes to the actor's pool, which is always declared. -/
theorem sharedBindings_declared (job : Job) :
    ∀ entry ∈ job.sharedBindings, entry.2 ∈ job.declaredNames := by
  intro entry member
  unfold sharedBindings at member
  split at member
  · obtain rfl := List.mem_singleton.mp member
    exact job.actorPool_mem
  · cases member

theorem known_iff {job : Job} {named : List (Role × String)}
    (read : job.namedOverrides = .ok named) :
    (∀ entry ∈ job.sharedBindings ++ named, entry.2 ∈ job.declaredNames) ↔
      ∀ entry ∈ job.placement.overrides.entries, entry.2 ∈ job.declaredNames := by
  rw [namedOverrides_eq_ok_iff.mp read]
  simp only [List.mem_append, or_imp, forall_and, List.forall_mem_map]
  exact and_iff_right job.sharedBindings_declared

theorem placeable_iff {job : Job} {cluster : Cluster} {policy : Policy}
    {named : List (Role × String)} (clustered : job.cluster = .ok cluster)
    (governed : job.policy = .ok policy) (read : job.namedOverrides = .ok named) :
    policy.Placeable cluster job.poolNames (job.sharedBindings ++ named) ↔ job.Placeable := by
  have sharing := (policy_eq_ok_iff.mp governed).1
  have width := (positiveCount?_eq_some_iff.mp (cluster_eq_ok_iff.mp clustered).2).2
  have names := poolNames_policy governed
  constructor
  · rintro ⟨wideEnough, requestFits, known, distinct⟩
    obtain ⟨nodes, devices⟩ := exists_cluster_iff.mp ⟨cluster, clustered⟩
    rw [names] at known distinct
    refine ⟨nodes, devices, ?_, (requestFits_iff governed).mp requestFits,
      exists_namedOverrides_iff.mp ⟨named, read⟩, (known_iff read).mp known, distinct⟩
    intro split
    have enough := wideEnough (sharing.trans split)
    omega
  · intro placeable
    refine ⟨?_, (requestFits_iff governed).mpr placeable.rewardFits, ?_, ?_⟩
    · intro split
      have enough := placeable.wideEnough (sharing.symm.trans split)
      omega
    · rw [names]
      exact (known_iff read).mpr placeable.known
    · rw [names]
      exact placeable.distinct

theorem place_eq_ok_iff {job : Job} {plan : Plan} :
    job.place.outcome = .ok plan ↔ job.Placeable ∧
      ∃ cluster policy named, job.cluster = .ok cluster ∧ job.policy = .ok policy ∧
        job.namedOverrides = .ok named ∧
        plan = ⟨cluster, (policy.layout cluster job.poolNames).pools,
          (policy.ownBindings job.poolNames).bindAll (job.sharedBindings ++ named)⟩ := by
  rw [outcome_place_iff]
  constructor
  · rintro ⟨cluster, policy, overrides, clustered, governed, overridden, planned⟩
    obtain ⟨named, read, rfl⟩ := (overrides_eq_ok_iff governed).mp overridden
    obtain ⟨fits, rfl⟩ := DevicePlan.place_eq_ok_iff.mp planned
    exact ⟨(placeable_iff clustered governed read).mp fits, cluster, policy, named, clustered,
      governed, read, rfl⟩
  · rintro ⟨placeable, cluster, policy, named, clustered, governed, read, rfl⟩
    have overridden := (overrides_eq_ok_iff governed).mpr ⟨named, read, rfl⟩
    have fits := (placeable_iff clustered governed read).mpr placeable
    exact ⟨cluster, policy, _, clustered, governed, overridden,
      DevicePlan.place_eq_ok_iff.mpr ⟨fits, rfl⟩⟩

theorem exists_place_iff {job : Job} :
    (∃ plan, job.place.outcome = .ok plan) ↔ job.Placeable := by
  constructor
  · rintro ⟨plan, placed⟩
    exact (place_eq_ok_iff.mp placed).1
  · intro placeable
    obtain ⟨cluster, clustered⟩ := exists_cluster_iff.mpr ⟨placeable.nodes, placeable.devices⟩
    obtain ⟨policy, governed⟩ := exists_policy placeable.rewardFits
    obtain ⟨named, read⟩ := exists_namedOverrides_iff.mpr placeable.roles
    exact ⟨_, place_eq_ok_iff.mpr
      ⟨placeable, cluster, policy, named, clustered, governed, read, rfl⟩⟩

section Placed

variable {job : Job} {plan : Plan}

theorem consistent_of_placed (placed : job.place.outcome = .ok plan) : plan.Consistent := by
  obtain ⟨cluster, policy, overrides, -, -, -, planned⟩ := outcome_place_iff.mp placed
  exact consistent_of_place planned

theorem get_bindings (placed : job.place.outcome = .ok plan) (role : Role) :
    plan.bindings.get role = job.chosenPool role := by
  obtain ⟨-, cluster, policy, named, -, governed, read, rfl⟩ := place_eq_ok_iff.mp placed
  rw [Bindings.get_bindAll, lastPool_append, Policy.get_ownBindings, Option.or_assoc,
    defaultPool_policy governed, lastPool_namedOverrides read, chosenPool]

theorem names_pools (placed : job.place.outcome = .ok plan) :
    plan.pools.map Pool.name = job.declaredNames := by
  obtain ⟨-, cluster, policy, named, -, governed, -, rfl⟩ := place_eq_ok_iff.mp placed
  exact (policy.names_layout cluster job.poolNames).trans (poolNames_policy governed)

end Placed

theorem starter_placeable (sharing : Sharing) : (starter sharing).Placeable := by
  have rewardFits : ∀ rewardModel ∈ (starter sharing).rewardModel, rewardModel.ownPool = true →
      rewardModel.Fits := by
    rintro rewardModel ⟨rfl⟩ own
    cases own
  have nodes : 1 ≤ (1 : Int64).toInt ∧ (1 : Int64).toInt ≤ 65536 := by decide
  have devices : 2 ≤ (8 : Int64).toInt ∧ (8 : Int64).toInt ≤ 2 ^ 32 - 1 := by decide
  refine ⟨nodes, ⟨le_trans (by decide) devices.1, devices.2⟩, fun _ => devices.1, rewardFits,
    ?_, ?_, ?_⟩
  · intro entry member
    cases member
  · intro entry member
    cases member
  · cases sharing <;> decide

/-! ## The statement -/

def ownReward : Job :=
  ⟨⟨2, 3⟩, ⟨.split, none, some "a", none, some "r", .ofList [("critic", "r")]⟩,
    some ⟨true, true, 4, 1⟩⟩

end Job

end DevicePlan
