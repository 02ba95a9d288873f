import DevicePlan.Proofs.Attachment
import DevicePlan.Proofs.Fault
import DevicePlan.Proofs.Log

namespace DevicePlan

namespace Policy

def primaryNames (policy : Policy) (names : PoolNames) : List String :=
  match policy.sharing with
  | .colocated => [names.global]
  | .split => [names.actor, names.critic]

theorem poolNames_eq_append (policy : Policy) (names : PoolNames) :
    policy.poolNames names =
      policy.primaryNames names ++ policy.auxiliary.toList.map fun _ => names.reward :=
  rfl

structure Buildable (policy : Policy) (cluster : Cluster) : Prop where
  wideEnough : policy.sharing = .split → 2 ≤ cluster.devicesPerNode.toNat
  requestFits : ∀ request ∈ policy.auxiliary, request.Fits

inductive FirstFault (policy : Policy) (cluster : Cluster) (names : PoolNames)
    (overrides : List (Role × String)) : PlanError → Prop where
  | tooNarrow (split : policy.sharing = .split) (narrow : cluster.devicesPerNode.toNat < 2) :
    FirstFault policy cluster names overrides
      (.invalidCluster (.tooNarrowToSplit cluster.devicesPerNode))
  | noDevices {request : AuxiliaryRequest}
    (wideEnough : policy.sharing = .split → 2 ≤ cluster.devicesPerNode.toNat)
    (asked : policy.auxiliary = some request) (devices : request.devicesPerNode.toNat = 0) :
    FirstFault policy cluster names overrides (.invalidAuxiliary (.noDevices names.reward))
  | noNodes {request : AuxiliaryRequest}
    (wideEnough : policy.sharing = .split → 2 ≤ cluster.devicesPerNode.toNat)
    (asked : policy.auxiliary = some request) (devices : 0 < request.devicesPerNode.toNat)
    (nodes : request.nodes.toNat = 0) :
    FirstFault policy cluster names overrides (.invalidAuxiliary (.noNodes names.reward))
  | tooManyNodes {request : AuxiliaryRequest}
    (wideEnough : policy.sharing = .split → 2 ≤ cluster.devicesPerNode.toNat)
    (asked : policy.auxiliary = some request) (devices : 0 < request.devicesPerNode.toNat)
    (nodes : 65536 < request.nodes.toNat) :
    FirstFault policy cluster names overrides
      (.invalidAuxiliary (.tooManyNodes names.reward request.nodes))
  | foreign {before after : List (Role × String)} {role : Role} {pool : String}
    (buildable : policy.Buildable cluster) (place : overrides = before ++ (role, pool) :: after)
    (earlier : ∀ entry ∈ before, entry.2 ∈ policy.poolNames names)
    (unknown : pool ∉ policy.poolNames names) :
    FirstFault policy cluster names overrides (.unknownPool role pool)
  | sharedCritic (buildable : policy.Buildable cluster)
    (known : ∀ entry ∈ overrides, entry.2 ∈ policy.poolNames names)
    (split : policy.sharing = .split) (same : names.critic = names.actor) :
    FirstFault policy cluster names overrides (.duplicatePool names.critic)
  | sharedReward (buildable : policy.Buildable cluster)
    (known : ∀ entry ∈ overrides, entry.2 ∈ policy.poolNames names)
    (apart : policy.sharing = .split → names.critic ≠ names.actor)
    (asked : policy.auxiliary.isSome) (again : names.reward ∈ policy.primaryNames names) :
    FirstFault policy cluster names overrides (.duplicatePool names.reward)

end Policy

namespace Layout

theorem split_eq_error_iff {cluster : Cluster} {first second : String} {error : PlanError} :
    split cluster first second = .error error ↔ cluster.devicesPerNode.toNat < 2 ∧
      error = .invalidCluster (.tooNarrowToSplit cluster.devicesPerNode) := by
  have narrow : cluster.devicesPerNode < 2 ↔ cluster.devicesPerNode.toNat < 2 :=
    UInt32.lt_iff_toNat_lt
  unfold split
  simp only [narrow]
  split
  · rename_i few
    simp [few, eq_comm]
  · rename_i enough
    simp [enough]

theorem addAuxiliary_eq_error_iff {layout : Layout} {name : String}
    {devicesPerNode nodes : UInt32} {error : PlanError} :
    layout.addAuxiliary name devicesPerNode nodes = .error error ↔
      (devicesPerNode.toNat = 0 ∧ error = .invalidAuxiliary (.noDevices name)) ∨
      (0 < devicesPerNode.toNat ∧ nodes.toNat = 0 ∧ error = .invalidAuxiliary (.noNodes name)) ∨
      (0 < devicesPerNode.toNat ∧ 65536 < nodes.toNat ∧
        error = .invalidAuxiliary (.tooManyNodes name nodes)) := by
  have zero (count : UInt32) : count = 0 ↔ count.toNat = 0 := by
    rw [← UInt32.toNat_inj]
    rfl
  have most : maxNodes < nodes ↔ 65536 < nodes.toNat := UInt32.lt_iff_toNat_lt
  unfold addAuxiliary
  simp only [zero, most]
  split
  · rename_i noDevices
    simp [noDevices, eq_comm]
  · rename_i someDevices
    have positive : 0 < devicesPerNode.toNat := Nat.pos_of_ne_zero someDevices
    split
    · rename_i noNodes
      simp [someDevices, positive, noNodes, eq_comm]
    · rename_i someNodes
      split
      · rename_i many
        simp [someDevices, positive, someNodes, many, eq_comm]
      · rename_i few
        simp [someDevices, someNodes, few]

end Layout

namespace Policy

variable {policy : Policy} {cluster : Cluster} {names : PoolNames}

theorem outcome_runPrimary (policy : Policy) (cluster : Cluster) (names : PoolNames) :
    (policy.runPrimary cluster names).outcome = policy.primaryLayout cluster names := by
  unfold runPrimary primaryLayout
  cases policy.sharing <;> exact Run.outcome_reporting _ _

theorem primaryLayout_eq_ok_iff {layout : Layout} :
    policy.primaryLayout cluster names = .ok layout ↔
      (policy.sharing = .split → 2 ≤ cluster.devicesPerNode.toNat) ∧
        layout = ⟨cluster, policy.primaryPools cluster names⟩ := by
  rw [← outcome_runPrimary, runPrimary_eq_ok_iff]

theorem primaryLayout_eq_error_iff {error : PlanError} :
    policy.primaryLayout cluster names = .error error ↔
      policy.sharing = .split ∧ cluster.devicesPerNode.toNat < 2 ∧
        error = .invalidCluster (.tooNarrowToSplit cluster.devicesPerNode) := by
  unfold primaryLayout
  cases policy.sharing with
  | colocated => simp
  | split => simp [Layout.split_eq_error_iff]

theorem build_eq_ok_iff {layout : Layout} :
    policy.build cluster names = .ok layout ↔
      policy.Buildable cluster ∧ layout = policy.layout cluster names := by
  have buildable : policy.Buildable cluster ↔
      (policy.sharing = .split → 2 ≤ cluster.devicesPerNode.toNat) ∧
        ∀ request ∈ policy.auxiliary, request.Fits :=
    ⟨fun builds => ⟨builds.wideEnough, builds.requestFits⟩, fun ⟨wide, fits⟩ => ⟨wide, fits⟩⟩
  simp only [build, bind_eq_ok, primaryLayout_eq_ok_iff, buildable, Policy.layout, auxiliaryPools]
  cases asked : policy.auxiliary with
  | none => simp [pure, Except.pure, eq_comm]
  | some request =>
    simp [Layout.addAuxiliary_eq_ok_iff, AuxiliaryRequest.Fits, Layout.push, and_assoc]

theorem build_eq_error_iff {error : PlanError} :
    policy.build cluster names = .error error ↔
      (policy.sharing = .split ∧ cluster.devicesPerNode.toNat < 2 ∧
        error = .invalidCluster (.tooNarrowToSplit cluster.devicesPerNode)) ∨
      (policy.sharing = .split → 2 ≤ cluster.devicesPerNode.toNat) ∧
        ∃ request, policy.auxiliary = some request ∧
          ((request.devicesPerNode.toNat = 0 ∧
            error = .invalidAuxiliary (.noDevices names.reward)) ∨
          (0 < request.devicesPerNode.toNat ∧ request.nodes.toNat = 0 ∧
            error = .invalidAuxiliary (.noNodes names.reward)) ∨
          (0 < request.devicesPerNode.toNat ∧ 65536 < request.nodes.toNat ∧
            error = .invalidAuxiliary (.tooManyNodes names.reward request.nodes))) := by
  simp only [build, bind_eq_error, primaryLayout_eq_error_iff, primaryLayout_eq_ok_iff]
  cases policy.auxiliary with
  | none => simp [pure, Except.pure]
  | some request => simp [Layout.addAuxiliary_eq_error_iff]

theorem bindAll_attachments (policy : Policy) (names : PoolNames) :
    (policy.primaryBindings names).bindAll (policy.attachments names) =
      policy.ownBindings names := by
  unfold attachments ownBindings
  split <;> rfl

/-- A policy attaches nothing to a foreign pool, so the overrides alone can be refused. -/
theorem attachAll_attachments (buildable : policy.Buildable cluster)
    (overrides : List (Role × String)) :
    (policy.primaryBindings names).attachAll (policy.layout cluster names)
        (policy.attachments names ++ overrides) =
      (policy.ownBindings names).attachAll (policy.layout cluster names) overrides := by
  have built : policy.build cluster names = .ok (policy.layout cluster names) :=
    build_eq_ok_iff.mpr ⟨buildable, rfl⟩
  have own : (policy.primaryBindings names).attachAll (policy.layout cluster names)
      (policy.attachments names) = .ok (policy.ownBindings names) :=
    Bindings.attachAll_eq_ok_iff.mpr
      ⟨attachments_declared built, (policy.bindAll_attachments names).symm⟩
  rw [Bindings.attachAll_append, own]
  rfl

theorem nameFault_layout_eq_some_iff {error : PlanError} :
    (policy.layout cluster names).nameFault = some error ↔
      (policy.sharing = .split ∧ names.critic = names.actor ∧
        error = .duplicatePool names.critic) ∨
      (policy.sharing = .split → names.critic ≠ names.actor) ∧ policy.auxiliary.isSome ∧
        names.reward ∈ policy.primaryNames names ∧ error = .duplicatePool names.reward := by
  have repeated : (policy.layout cluster names).nameFault =
      (Layout.firstRepeat [] (policy.poolNames names)).map .duplicatePool := by
    rw [← policy.names_layout cluster names]
    rfl
  rw [repeated]
  unfold poolNames primaryNames
  cases policy.sharing with
  | colocated =>
    cases policy.auxiliary with
    | none => simp [Layout.firstRepeat]
    | some request =>
      by_cases again : names.reward = names.global <;>
        simp [Layout.firstRepeat, again, eq_comm]
  | split =>
    cases policy.auxiliary with
    | none =>
      by_cases same : names.critic = names.actor <;> simp [Layout.firstRepeat, same, eq_comm]
    | some request =>
      by_cases same : names.critic = names.actor
      · simp [Layout.firstRepeat, same, eq_comm]
      · by_cases again : names.reward ∈ [names.critic, names.actor] <;>
          simp_all [Layout.firstRepeat, eq_comm, or_comm]

theorem freeze_layout_eq_error_iff {overrides : List (Role × String)} {error : PlanError}
    (requestFits : ∀ request ∈ policy.auxiliary, request.Fits)
    (known : ∀ entry ∈ overrides, entry.2 ∈ policy.poolNames names) :
    Plan.freeze (policy.layout cluster names) ((policy.ownBindings names).bindAll overrides) =
      .error error ↔ (policy.layout cluster names).nameFault = some error := by
  rw [Plan.freeze_eq_error_iff, Layout.fault_eq_some_iff]
  refine ⟨?_, .inl⟩
  rintro (repeated | ⟨distinct, other⟩)
  · exact repeated
  · -- With distinct names there is no fault at all.
    have faultless : (policy.layout cluster names).fault
        ((policy.ownBindings names).bindAll overrides) = none := by
      rw [fault_layout_eq_none_iff requestFits known, ← policy.names_layout cluster names]
      exact Layout.nameFault_eq_none_iff.mp distinct
    have found := Layout.fault_eq_some_iff.mpr (.inr ⟨distinct, other⟩)
    rw [faultless] at found
    cases found

end Policy

section Placement

variable {cluster : Cluster} {policy : Policy} {names : PoolNames}
  {overrides : List (Role × String)}

theorem outcome_place (cluster : Cluster) (policy : Policy) (names : PoolNames)
    (overrides : List (Role × String)) :
    (place cluster policy names overrides).outcome = (do
      let layout ← policy.build cluster names
      let bindings ← (policy.primaryBindings names).attachAll layout
        (policy.attachments names ++ overrides)
      Plan.freeze layout bindings) := by
  simp only [place_eq, Run.outcome_bind, Policy.outcome_runBuild, Policy.runAttachments,
    Bindings.outcome_runAttachAll, Policy.outcome_runFinish]

theorem place_eq_error_iff {error : PlanError} :
    (place cluster policy names overrides).outcome = .error error ↔
      policy.build cluster names = .error error ∨
      policy.Buildable cluster ∧
        ((∃ before role pool after, overrides = before ++ (role, pool) :: after ∧
          (∀ entry ∈ before, entry.2 ∈ policy.poolNames names) ∧
            pool ∉ policy.poolNames names ∧ error = .unknownPool role pool) ∨
        (∀ entry ∈ overrides, entry.2 ∈ policy.poolNames names) ∧
          (policy.layout cluster names).nameFault = some error) := by
  rw [outcome_place, bind_eq_error]
  refine or_congr_right ?_
  constructor
  · rintro ⟨layout, built, failed⟩
    obtain ⟨buildable, rfl⟩ := Policy.build_eq_ok_iff.mp built
    refine ⟨buildable, ?_⟩
    rcases bind_eq_error.mp failed with refused | ⟨bindings, attached, failed⟩
    · rw [Policy.attachAll_attachments buildable, Bindings.attachAll_eq_error_iff,
        Policy.names_layout] at refused
      exact .inl refused
    · rw [Policy.attachAll_attachments buildable, Bindings.attachAll_eq_ok_iff,
        Policy.names_layout] at attached
      obtain ⟨known, rfl⟩ := attached
      exact .inr ⟨known,
        (Policy.freeze_layout_eq_error_iff buildable.requestFits known).mp failed⟩
  · rintro ⟨buildable, failed⟩
    refine ⟨_, Policy.build_eq_ok_iff.mpr ⟨buildable, rfl⟩, bind_eq_error.mpr ?_⟩
    rw [Policy.attachAll_attachments buildable, Bindings.attachAll_eq_error_iff,
      Policy.names_layout]
    rcases failed with refused | ⟨known, repeated⟩
    · exact .inl refused
    · have declared : ∀ entry ∈ overrides, entry.2 ∈ (policy.layout cluster names).names := by
        rwa [policy.names_layout]
      exact .inr ⟨_, Bindings.attachAll_eq_ok_iff.mpr ⟨declared, rfl⟩,
        (Policy.freeze_layout_eq_error_iff buildable.requestFits known).mpr repeated⟩

theorem place_eq_error_iff_firstFault {error : PlanError} :
    (place cluster policy names overrides).outcome = .error error ↔
      policy.FirstFault cluster names overrides error := by
  rw [place_eq_error_iff, Policy.build_eq_error_iff, Policy.nameFault_layout_eq_some_iff]
  constructor
  · rintro ((⟨split, narrow, rfl⟩ | ⟨wideEnough, request, asked, ⟨devices, rfl⟩ |
      ⟨devices, nodes, rfl⟩ | ⟨devices, nodes, rfl⟩⟩) |
      ⟨buildable, ⟨before, role, pool, after, place, earlier, unknown, rfl⟩ |
      ⟨known, ⟨split, same, rfl⟩ | ⟨apart, asked, again, rfl⟩⟩⟩)
    · exact .tooNarrow split narrow
    · exact .noDevices wideEnough asked devices
    · exact .noNodes wideEnough asked devices nodes
    · exact .tooManyNodes wideEnough asked devices nodes
    · exact .foreign buildable place earlier unknown
    · exact .sharedCritic buildable known split same
    · exact .sharedReward buildable known apart asked again
  · intro first
    cases first with
    | tooNarrow split narrow => exact .inl (.inl ⟨split, narrow, rfl⟩)
    | noDevices wideEnough asked devices =>
      exact .inl (.inr ⟨wideEnough, _, asked, .inl ⟨devices, rfl⟩⟩)
    | noNodes wideEnough asked devices nodes =>
      exact .inl (.inr ⟨wideEnough, _, asked, .inr (.inl ⟨devices, nodes, rfl⟩)⟩)
    | tooManyNodes wideEnough asked devices nodes =>
      exact .inl (.inr ⟨wideEnough, _, asked, .inr (.inr ⟨devices, nodes, rfl⟩)⟩)
    | foreign buildable place earlier unknown =>
      exact .inr ⟨buildable, .inl ⟨_, _, _, _, place, earlier, unknown, rfl⟩⟩
    | sharedCritic buildable known split same =>
      exact .inr ⟨buildable, .inr ⟨known, .inl ⟨split, same, rfl⟩⟩⟩
    | sharedReward buildable known apart asked again =>
      exact .inr ⟨buildable, .inr ⟨known, .inr ⟨apart, asked, again, rfl⟩⟩⟩

end Placement

theorem place_fails_with_first_fault (cluster : Cluster) (policy : Policy) (names : PoolNames)
    (overrides : List (Role × String)) :
    (∀ error, (place cluster policy names overrides).outcome = .error error ↔
      policy.FirstFault cluster names overrides error) ∧
    (∀ node requested available, (place cluster policy names overrides).outcome ≠
      .error (.overAllocation node requested available)) ∧
    (∀ pool expected actual, (place cluster policy names overrides).outcome ≠
      .error (.rowMismatch pool expected actual)) ∧
    (∀ role, (place cluster policy names overrides).outcome ≠ .error (.unboundRole role)) ∧
    (∀ text, (place cluster policy names overrides).outcome ≠ .error (.unknownRoleName text)) ∧
    ∀ role own pool, policy.ownPool names own = some pool →
      (place cluster policy names overrides).outcome ≠ .error (.unknownPool role pool) := by
  refine ⟨fun error => place_eq_error_iff_firstFault, fun node requested available failed => ?_,
    fun pool expected actual failed => ?_, fun role failed => ?_, fun text failed => ?_,
    fun role own pool bound failed => ?_⟩
  · cases place_eq_error_iff_firstFault.mp failed
  · cases place_eq_error_iff_firstFault.mp failed
  · cases place_eq_error_iff_firstFault.mp failed
  · cases place_eq_error_iff_firstFault.mp failed
  · cases place_eq_error_iff_firstFault.mp failed with
    | foreign buildable place earlier unknown => exact unknown (Policy.ownPool_mem bound)

def PoolNames.colliding : PoolNames := ⟨"all", "a", "a", "a"⟩

def strayReference : List (Role × String) :=
  [(.critic, "a"), (.reference, "nowhere"), (.reference, "a"), (.rewardModel, "neither")]

theorem place_colliding :
    (place Plan.fullNodes.cluster .oddSplit .colliding strayReference).outcome =
      .error (.unknownPool .reference "nowhere") ∧
    (place Plan.fullNodes.cluster .oddSplit .colliding []).outcome =
      .error (.duplicatePool "a") ∧
    Policy.oddSplit.ownPool .colliding .critic = some "a" ∧
    (place Plan.fullNodes.cluster .oddSplit .colliding strayReference).outcome ≠
      .error (.unknownPool .critic "a") := by
  have buildable : Policy.oddSplit.Buildable Plan.fullNodes.cluster :=
    ⟨by decide, Policy.oddSplit_fits⟩
  obtain ⟨first, -, -, -, -, bound⟩ :=
    place_fails_with_first_fault Plan.fullNodes.cluster .oddSplit .colliding strayReference
  obtain ⟨unbound, -⟩ := place_fails_with_first_fault Plan.fullNodes.cluster .oddSplit .colliding []
  have place : strayReference = [(.critic, "a")] ++ (.reference, "nowhere") ::
      [(.reference, "a"), (.rewardModel, "neither")] := rfl
  have stray : Policy.oddSplit.FirstFault Plan.fullNodes.cluster .colliding strayReference
      (.unknownPool .reference "nowhere") := .foreign buildable place (by decide) (by decide)
  have shared : Policy.oddSplit.FirstFault Plan.fullNodes.cluster .colliding []
      (.duplicatePool "a") :=
    .sharedCritic buildable nofun rfl rfl
  exact ⟨(first _).mpr stray, (unbound _).mpr shared, rfl, bound .critic .critic "a" rfl⟩

end DevicePlan
