import DevicePlan.Proofs.Job.Placement
import DevicePlan.Proofs.Placement.Fault

/-!
# Why a job is not placed

What an error says of a job is written down as data in `Job.Tells`: which message there is, and what
has to be true of the configuration for the message to be right. Every error of `Job.place` is right
in this sense but for one: a count of more than 32 bits is read like one that is not positive, and
is reported as if it were not greater than 0. `Job.Oversized` says which jobs that happens to, and
`place_tells_unless_oversized` that it happens to no others.
-/

namespace DevicePlan

theorem positiveCount?_eq_none_iff {value : Int64} :
    positiveCount? value = none ↔ value.toInt ≤ 0 ∨ 2 ^ 32 - 1 < value.toInt := by
  rw [Option.eq_none_iff_forall_ne_some, ← not_exists, exists_positiveCount_iff]
  omega

namespace Job

inductive CountField where
  | trainerNodes
  | trainerDevices
  | rewardDevices
  | rewardNodes
deriving DecidableEq

namespace CountField

def name : CountField → String
  | trainerNodes => "trainer.nnodes"
  | trainerDevices => "trainer.n_gpus_per_node"
  | rewardDevices => "reward_model.n_gpus_per_node"
  | rewardNodes => "reward_model.nnodes"

def topic : CountField → String
  | trainerNodes | trainerDevices => "invalid cluster shape"
  | rewardDevices | rewardNodes => "invalid auxiliary pool"

def misfit : CountField → Int64 → PlanError
  | trainerNodes, value => .invalidCluster (.configuredNodes value)
  | trainerDevices, value => .invalidCluster (.configuredDevices value)
  | rewardDevices, value => .invalidAuxiliary (.configuredDevices value)
  | rewardNodes, value => .invalidAuxiliary (.configuredNodes value)

def value? (job : Job) : CountField → Option Int64
  | trainerNodes => some job.trainer.nodes
  | trainerDevices => some job.trainer.devicesPerNode
  | rewardDevices => (job.rewardModel.filter RewardModel.ownPool).map RewardModel.devicesPerNode
  | rewardNodes => (job.rewardModel.filter RewardModel.ownPool).map RewardModel.nodes

theorem misfit_inj {field other : CountField} {value another : Int64} :
    field.misfit value = other.misfit another ↔ field = other ∧ value = another := by
  cases field <;> cases other <;> simp [misfit]

theorem message_misfit (field : CountField) (value : Int64) :
    (field.misfit value).message =
      s!"{field.topic}: {field.name} must be greater than 0, got {value.toInt}" := by
  have parts : s!"{field.topic}: {field.name} must be greater than 0, got {value.toInt}" =
      (field.topic ++ ": ") ++
        ((field.name ++ " must be greater than 0, got ") ++ toString value.toInt) := by
    rw [← String.append_assoc, ← String.append_assoc]
    rfl
  rw [parts]
  cases field <;> rfl

end CountField

inductive Tells (job : Job) : PlanError → String → Prop where
  | notPositive {field : CountField} {value : Int64} (configured : field.value? job = some value)
    (low : value.toInt ≤ 0) :
    Tells job (field.misfit value)
      s!"{field.topic}: {field.name} must be greater than 0, got {value.toInt}"
  | manyNodes {nodes : UInt32} (configured : job.trainer.nodes.toInt = nodes.toNat)
    (many : 65536 < job.trainer.nodes.toInt) :
    Tells job (.invalidCluster (.tooManyNodes nodes))
      s!"invalid cluster shape: node count {nodes.toNat} exceeds the maximum of 65536"
  | narrow (split : job.placement.sharing = .split)
    (single : job.trainer.devicesPerNode.toInt = 1) :
    Tells job (.invalidCluster (.tooNarrowToSplit 1))
      "invalid cluster shape: split placement needs at least 2 devices per node, got 1"
  | manyRewardNodes {rewardModel : RewardModel} {nodes : UInt32}
    (present : job.rewardModel = some rewardModel) (own : rewardModel.ownPool = true)
    (configured : rewardModel.nodes.toInt = nodes.toNat)
    (many : 65536 < rewardModel.nodes.toInt) :
    Tells job (.invalidAuxiliary (.tooManyNodes job.poolNames.reward nodes))
      (s!"invalid auxiliary pool: pool {job.poolNames.reward}: " ++
        s!"node count {nodes.toNat} exceeds the maximum of 65536")
  | noRole {name pool : String} (key : (name, pool) ∈ job.placement.overrides.entries)
    (other : ∀ role : Role, name ≠ role.name) :
    Tells job (.unknownRoleName name) s!"unrecognized role name: {name}"
  | undeclared {role : Role} {pool : String}
    (bound : job.placement.overrides.get? role.name = some pool)
    (absent : pool ∉ job.declaredNames) :
    Tells job (.unknownPool role pool) s!"role {role.name} is bound to unknown pool: {pool}"
  | duplicate {name : String} (twice : 2 ≤ job.declaredNames.count name) :
    Tells job (.duplicatePool name) s!"duplicate pool name: {name}"

def Reads (job : Job) : CountField → Prop
  | .trainerNodes => True
  | .trainerDevices => 1 ≤ job.trainer.nodes.toInt ∧ job.trainer.nodes.toInt ≤ 2 ^ 32 - 1
  | .rewardDevices => (1 ≤ job.trainer.nodes.toInt ∧ job.trainer.nodes.toInt ≤ 65536) ∧
    1 ≤ job.trainer.devicesPerNode.toInt ∧ job.trainer.devicesPerNode.toInt ≤ 2 ^ 32 - 1
  | .rewardNodes => ((1 ≤ job.trainer.nodes.toInt ∧ job.trainer.nodes.toInt ≤ 65536) ∧
    1 ≤ job.trainer.devicesPerNode.toInt ∧ job.trainer.devicesPerNode.toInt ≤ 2 ^ 32 - 1) ∧
    ∀ rewardModel ∈ job.rewardModel, 1 ≤ rewardModel.devicesPerNode.toInt ∧
      rewardModel.devicesPerNode.toInt ≤ 2 ^ 32 - 1

/-- The first count that is out of order is too large for 32 bits, and the error is the one for
it. -/
def Oversized (job : Job) (error : PlanError) : Prop :=
  ∃ field value, CountField.value? job field = some value ∧ job.Reads field ∧
    2 ^ 32 - 1 < value.toInt ∧ error = field.misfit value

theorem text_nodeLimit (nodes : UInt32) :
    s!"node count {nodes.toNat} exceeds the maximum of {maxNodes.toNat}" =
      s!"node count {nodes.toNat} exceeds the maximum of 65536" := by
  have limit : " exceeds the maximum of " ++ toString maxNodes.toNat =
      " exceeds the maximum of 65536" := by decide +kernel
  exact (String.append_assoc ..).trans (congrArg _ limit)

theorem message_manyNodes (nodes : UInt32) :
    (PlanError.invalidCluster (.tooManyNodes nodes)).message =
      s!"invalid cluster shape: node count {nodes.toNat} exceeds the maximum of 65536" := by
  calc (PlanError.invalidCluster (.tooManyNodes nodes)).message
    _ = "invalid cluster shape: " ++
        s!"node count {nodes.toNat} exceeds the maximum of {maxNodes.toNat}" := rfl
    _ = "invalid cluster shape: " ++
        (("node count " ++ toString nodes.toNat) ++ " exceeds the maximum of 65536") := by
      rw [text_nodeLimit]
      rfl
    _ = (("invalid cluster shape: " ++ "node count ") ++ toString nodes.toNat) ++
        " exceeds the maximum of 65536" := by
      rw [← String.append_assoc, ← String.append_assoc]
    _ = s!"invalid cluster shape: node count {nodes.toNat} exceeds the maximum of 65536" := rfl

theorem message_manyRewardNodes (pool : String) (nodes : UInt32) :
    (PlanError.invalidAuxiliary (.tooManyNodes pool nodes)).message =
      s!"invalid auxiliary pool: pool {pool}: " ++
        s!"node count {nodes.toNat} exceeds the maximum of 65536" := by
  calc (PlanError.invalidAuxiliary (.tooManyNodes pool nodes)).message
    _ = "invalid auxiliary pool: " ++
        ((("pool " ++ pool) ++ ": node count ") ++ toString nodes.toNat ++
          " exceeds the maximum of " ++ toString maxNodes.toNat) := rfl
    _ = ("invalid auxiliary pool: pool " ++ pool ++ ": ") ++
        ("node count " ++ toString nodes.toNat ++
          " exceeds the maximum of " ++ toString maxNodes.toNat) := by
      have head : "invalid auxiliary pool: pool " = "invalid auxiliary pool: " ++ "pool " := rfl
      have middle : ": node count " = ": " ++ "node count " := rfl
      rw [head, middle]
      simp only [String.append_assoc]
    _ = s!"invalid auxiliary pool: pool {pool}: " ++
        s!"node count {nodes.toNat} exceeds the maximum of 65536" :=
      congrArg _ (text_nodeLimit nodes)

/-! ## Errors of the parts -/

end Job

theorem Cluster.ofCounts_eq_error_iff {nodes devicesPerNode : UInt32} {error : PlanError}
    (someNodes : 0 < nodes.toNat) (someDevices : 0 < devicesPerNode.toNat) :
    ofCounts nodes devicesPerNode = .error error ↔
      65536 < nodes.toNat ∧ error = .invalidCluster (.tooManyNodes nodes) := by
  have nodesNeZero : nodes ≠ 0 := by
    rintro rfl
    cases someNodes
  have devicesNeZero : devicesPerNode ≠ 0 := by
    rintro rfl
    cases someDevices
  have most : nodes ≤ maxNodes ↔ nodes.toNat ≤ 65536 := UInt32.le_iff_toNat_le
  simp only [ofCounts, dif_neg nodesNeZero, dif_neg devicesNeZero, most]
  by_cases few : nodes.toNat ≤ 65536
  · simp [few]
  · simp [few, Nat.lt_of_not_le few, eq_comm]

namespace Job

theorem cluster_eq_error_iff {job : Job} {error : PlanError} :
    job.cluster = .error error ↔
      (positiveCount? job.trainer.nodes = none ∧
        error = .invalidCluster (.configuredNodes job.trainer.nodes)) ∨
      ∃ nodes, positiveCount? job.trainer.nodes = some nodes ∧
        ((positiveCount? job.trainer.devicesPerNode = none ∧
          error = .invalidCluster (.configuredDevices job.trainer.devicesPerNode)) ∨
        (∃ devicesPerNode, positiveCount? job.trainer.devicesPerNode = some devicesPerNode) ∧
          65536 < nodes.toNat ∧ error = .invalidCluster (.tooManyNodes nodes)) := by
  unfold Job.cluster
  cases nodesRead : positiveCount? job.trainer.nodes with
  | none => simp [eq_comm]
  | some nodes =>
    obtain ⟨someNodes, -⟩ := positiveCount?_eq_some_iff.mp nodesRead
    cases devicesRead : positiveCount? job.trainer.devicesPerNode with
    | none => simp [eq_comm]
    | some devicesPerNode =>
      obtain ⟨someDevices, -⟩ := positiveCount?_eq_some_iff.mp devicesRead
      simp [Cluster.ofCounts_eq_error_iff someNodes someDevices]

theorem RewardModel.request_eq_error_iff {rewardModel : RewardModel} {error : PlanError} :
    rewardModel.request = .error error ↔
      (positiveCount? rewardModel.devicesPerNode = none ∧
        error = .invalidAuxiliary (.configuredDevices rewardModel.devicesPerNode)) ∨
      (∃ devicesPerNode, positiveCount? rewardModel.devicesPerNode = some devicesPerNode) ∧
        positiveCount? rewardModel.nodes = none ∧
          error = .invalidAuxiliary (.configuredNodes rewardModel.nodes) := by
  unfold request
  cases positiveCount? rewardModel.devicesPerNode with
  | none => simp [eq_comm]
  | some devicesPerNode => cases positiveCount? rewardModel.nodes <;> simp [eq_comm]

theorem policy_eq_error_iff {job : Job} {error : PlanError} :
    job.policy = .error error ↔ ∃ rewardModel,
      job.rewardModel.filter RewardModel.ownPool = some rewardModel ∧
        rewardModel.request = .error error := by
  unfold Job.policy
  cases job.rewardModel.filter RewardModel.ownPool with
  | none => simp
  | some rewardModel => simp [bind_eq_error, pure, Except.pure]

theorem noRole_of_namedOverrides {job : Job} {error : PlanError}
    (failed : job.namedOverrides = .error error) : job.Tells error error.message := by
  obtain ⟨⟨name, pool⟩, member, unread⟩ := exists_of_mapM_eq_error failed
  rcases bind_eq_error.mp unread with unread | ⟨role, -, impossible⟩
  · have other : ∀ role : Role, name ≠ role.name := by
      intro role same
      rw [Role.ofName_eq_ok_iff.mpr same] at unread
      cases unread
    have named : error = .unknownRoleName name := by
      unfold Role.ofName at unread
      split at unread <;> cases unread
      rfl
    rw [named]
    exact .noRole member other
  · cases impossible

/-! ## Failing stages -/

section Stages

variable {job : Job} {error : PlanError}

theorem outcome_place_eq_error_iff :
    job.place.outcome = .error error ↔ job.cluster = .error error ∨
      ∃ cluster, job.cluster = .ok cluster ∧ (job.policy = .error error ∨
        ∃ policy, job.policy = .ok policy ∧
          (job.overrides job.poolNames policy = .error error ∨
            ∃ overrides, job.overrides job.poolNames policy = .ok overrides ∧
              (DevicePlan.place cluster policy job.poolNames overrides).outcome =
                .error error)) := by
  unfold Job.place
  cases job.cluster with
  | error other => simp
  | ok cluster =>
    cases job.policy with
    | error other => simp
    | ok policy => cases overridden : job.overrides job.poolNames policy <;> simp [overridden]

theorem place_of_misfit {field : CountField} {value : Int64}
    (configured : field.value? job = some value) (read : job.Reads field)
    (outside : value.toInt ≤ 0 ∨ 2 ^ 32 - 1 < value.toInt) :
    job.place.outcome = .error (field.misfit value) := by
  have unread := positiveCount?_eq_none_iff.mpr outside
  rw [outcome_place_eq_error_iff]
  cases field with
  | trainerNodes =>
    cases configured
    exact .inl (cluster_eq_error_iff.mpr (.inl ⟨unread, rfl⟩))
  | trainerDevices =>
    cases configured
    obtain ⟨nodes, counted⟩ := exists_positiveCount_iff.mpr read
    exact .inl (cluster_eq_error_iff.mpr (.inr ⟨nodes, counted, .inl ⟨unread, rfl⟩⟩))
  | rewardDevices =>
    obtain ⟨cluster, clustered⟩ := exists_cluster_iff.mpr read
    obtain ⟨rewardModel, asked, rfl⟩ := Option.map_eq_some_iff.mp configured
    refine .inr ⟨cluster, clustered, .inl (policy_eq_error_iff.mpr ⟨rewardModel, asked, ?_⟩)⟩
    exact RewardModel.request_eq_error_iff.mpr (.inl ⟨unread, rfl⟩)
  | rewardNodes =>
    obtain ⟨cluster, clustered⟩ := exists_cluster_iff.mpr read.1
    obtain ⟨rewardModel, asked, rfl⟩ := Option.map_eq_some_iff.mp configured
    obtain ⟨present, -⟩ := Option.filter_eq_some_iff.mp asked
    have devices := exists_positiveCount_iff.mpr (read.2 rewardModel present)
    refine .inr ⟨cluster, clustered, .inl (policy_eq_error_iff.mpr ⟨rewardModel, asked, ?_⟩)⟩
    exact RewardModel.request_eq_error_iff.mpr (.inr ⟨devices, unread, rfl⟩)

theorem tells_or_oversized_of_misfit {field : CountField} {value : Int64}
    (configured : field.value? job = some value) (read : job.Reads field)
    (unread : positiveCount? value = none) :
    job.Tells (field.misfit value) (field.misfit value).message ∨
      job.Oversized (field.misfit value) := by
  rcases positiveCount?_eq_none_iff.mp unread with low | high
  · rw [CountField.message_misfit]
    exact .inl (.notPositive configured low)
  · exact .inr ⟨field, value, configured, read, high, rfl⟩

theorem tells_or_oversized_of_cluster (failed : job.cluster = .error error) :
    job.Tells error error.message ∨ job.Oversized error := by
  rcases cluster_eq_error_iff.mp failed with
    ⟨unread, rfl⟩ | ⟨nodes, counted, ⟨unread, rfl⟩ | ⟨-, many, rfl⟩⟩
  · have configured : CountField.trainerNodes.value? job = some job.trainer.nodes := rfl
    exact tells_or_oversized_of_misfit configured trivial unread
  · have configured : CountField.trainerDevices.value? job = some job.trainer.devicesPerNode := rfl
    have read := exists_positiveCount_iff.mp ⟨nodes, counted⟩
    exact tells_or_oversized_of_misfit configured read unread
  · obtain ⟨-, exactly⟩ := positiveCount?_eq_some_iff.mp counted
    rw [message_manyNodes]
    exact .inl (.manyNodes exactly.symm (by omega))

theorem tells_or_oversized_of_policy {cluster : Cluster} (clustered : job.cluster = .ok cluster)
    (failed : job.policy = .error error) :
    job.Tells error error.message ∨ job.Oversized error := by
  have counts := exists_cluster_iff.mp ⟨cluster, clustered⟩
  obtain ⟨rewardModel, asked, failed⟩ := policy_eq_error_iff.mp failed
  rcases RewardModel.request_eq_error_iff.mp failed with
    ⟨unread, rfl⟩ | ⟨devices, unread, rfl⟩
  · have configured : CountField.rewardDevices.value? job = some rewardModel.devicesPerNode := by
      rw [CountField.value?, asked, Option.map_some]
    exact tells_or_oversized_of_misfit configured counts unread
  · have configured : CountField.rewardNodes.value? job = some rewardModel.nodes := by
      rw [CountField.value?, asked, Option.map_some]
    refine tells_or_oversized_of_misfit configured ⟨counts, ?_⟩ unread
    intro other present
    obtain ⟨same, -⟩ := Option.filter_eq_some_iff.mp asked
    obtain rfl := Option.some.inj (present.symm.trans same)
    exact exists_positiveCount_iff.mp devices

theorem tells_of_overrides {policy : Policy}
    (failed : job.overrides job.poolNames policy = .error error) :
    job.Tells error error.message := by
  rcases bind_eq_error.mp failed with failed | ⟨named, -, impossible⟩
  · exact noRole_of_namedOverrides failed
  · cases impossible

theorem exists_rewardModel {policy : Policy} {request : AuxiliaryRequest}
    (governed : job.policy = .ok policy) (asked : policy.auxiliary = some request) :
    ∃ rewardModel, job.rewardModel = some rewardModel ∧ rewardModel.ownPool = true ∧
      0 < request.devicesPerNode.toNat ∧ 0 < request.nodes.toNat ∧
        rewardModel.nodes.toInt = request.nodes.toNat := by
  rcases policy_cases governed with
    ⟨absent, -⟩ | ⟨rewardModel, other, present, own, wanted, requested⟩
  · cases absent.symm.trans asked
  · obtain rfl := Option.some.inj (wanted.symm.trans asked)
    obtain ⟨devices, nodes, -⟩ := RewardModel.request_eq_ok_iff.mp requested
    obtain ⟨someDevices, -⟩ := positiveCount?_eq_some_iff.mp devices
    obtain ⟨someNodes, exactly⟩ := positiveCount?_eq_some_iff.mp nodes
    exact ⟨rewardModel, present, own, someDevices, someNodes, exactly.symm⟩

theorem get?_overrides_of_foreign {named : List (Role × String)} {role : Role} {pool : String}
    (read : job.namedOverrides = .ok named)
    (member : (role, pool) ∈ job.sharedBindings ++ named) (absent : pool ∉ job.declaredNames) :
    job.placement.overrides.get? role.name = some pool := by
  rw [NameMap.get?_eq_some_iff, namedOverrides_eq_ok_iff.mp read]
  rcases List.mem_append.mp member with shared | configured
  · cases absent (job.sharedBindings_declared _ shared)
  · exact List.mem_map_of_mem configured

theorem tells_of_firstFault {cluster : Cluster} {policy : Policy} {named : List (Role × String)}
    (clustered : job.cluster = .ok cluster) (governed : job.policy = .ok policy)
    (read : job.namedOverrides = .ok named)
    (first : policy.FirstFault cluster job.poolNames (job.sharedBindings ++ named) error) :
    job.Tells error error.message := by
  have sharing := (policy_eq_ok_iff.mp governed).1
  have names := poolNames_policy governed
  obtain ⟨someDevices, width⟩ :=
    positiveCount?_eq_some_iff.mp (cluster_eq_ok_iff.mp clustered).2
  cases first with
  | tooNarrow split narrow =>
    have single : cluster.devicesPerNode = 1 := UInt32.toNat_inj.mp (by
      rw [UInt32.toNat_one]
      omega)
    rw [single] at width ⊢
    exact .narrow (sharing.symm.trans split) width.symm
  | noDevices wideEnough asked devices =>
    obtain ⟨-, -, -, someDevices, -⟩ := exists_rewardModel governed asked
    omega
  | noNodes wideEnough asked devices nodes =>
    obtain ⟨-, -, -, -, someNodes, -⟩ := exists_rewardModel governed asked
    omega
  | tooManyNodes wideEnough asked devices nodes =>
    obtain ⟨rewardModel, present, own, -, -, configured⟩ := exists_rewardModel governed asked
    rw [message_manyRewardNodes]
    exact .manyRewardNodes present own configured (by omega)
  | @foreign before after role pool buildable place earlier unknown =>
    rw [names] at unknown
    have member : (role, pool) ∈ job.sharedBindings ++ named := by
      rw [place]
      exact List.mem_append_right before List.mem_cons_self
    exact .undeclared (get?_overrides_of_foreign read member unknown) unknown
  | sharedCritic buildable known split same =>
    refine .duplicate ?_
    rw [← names, Policy.poolNames, split, same]
    simp
  | sharedReward buildable known apart asked again =>
    obtain ⟨request, wanted⟩ := Option.isSome_iff_exists.mp asked
    have earlier : 1 ≤ (policy.primaryNames job.poolNames).count job.poolNames.reward :=
      List.one_le_count_iff.mpr again
    refine .duplicate ?_
    rw [← names, policy.poolNames_eq_append, List.count_append, wanted]
    simpa using earlier

theorem tells_or_oversized (failed : job.place.outcome = .error error) :
    job.Tells error error.message ∨ job.Oversized error := by
  rcases outcome_place_eq_error_iff.mp failed with
    failed | ⟨cluster, clustered, failed | ⟨policy, governed, failed | ⟨_, overridden, failed⟩⟩⟩
  · exact tells_or_oversized_of_cluster failed
  · exact tells_or_oversized_of_policy clustered failed
  · exact .inl (tells_of_overrides failed)
  · obtain ⟨named, read, rfl⟩ := (overrides_eq_ok_iff governed).mp overridden
    have first := place_eq_error_iff_firstFault.mp failed
    exact .inl (tells_of_firstFault clustered governed read first)

theorem not_oversized_of_tells {text : String} (tells : job.Tells error text) :
    ¬ job.Oversized error := by
  rintro ⟨field, value, -, -, high, same⟩
  cases tells with
  | notPositive configured low =>
    obtain ⟨-, rfl⟩ := CountField.misfit_inj.mp same
    omega
  | manyNodes | narrow | manyRewardNodes | noRole | undeclared | duplicate =>
    cases field <;> cases same

end Stages

/-! ## The statement -/

theorem place_tells_unless_oversized (job : Job) :
    (∀ error, job.place.outcome = .error error →
      (job.Tells error error.message ↔ ¬ job.Oversized error)) ∧
    ∀ (field : CountField) (value : Int64), field.value? job = some value → job.Reads field →
      2 ^ 32 - 1 < value.toInt → job.place.outcome = .error (field.misfit value) ∧
        (field.misfit value).message =
          s!"{field.topic}: {field.name} must be greater than 0, got {value.toInt}" := by
  refine ⟨fun error failed => ⟨not_oversized_of_tells, fun fits => ?_⟩, ?_⟩
  · exact (tells_or_oversized failed).resolve_right fits
  · intro field value configured read high
    exact ⟨place_of_misfit configured read (.inr high), field.message_misfit value⟩

def negativeReward : Job :=
  { ownReward with rewardModel := some ⟨true, true, -4, 4294967296⟩ }

def hugeReward : Job :=
  { ownReward with rewardModel := some ⟨true, true, 4, 4294967296⟩ }

theorem place_negativeReward :
    negativeReward.place.outcome = .error (.invalidAuxiliary (.configuredDevices (-4))) ∧
    ¬ negativeReward.Oversized (.invalidAuxiliary (.configuredDevices (-4))) ∧
    hugeReward.place.outcome = .error (.invalidAuxiliary (.configuredNodes 4294967296)) ∧
    (PlanError.invalidAuxiliary (.configuredNodes 4294967296)).message =
      "invalid auxiliary pool: reward_model.nnodes must be greater than 0, got 4294967296" := by
  obtain ⟨right, -⟩ := place_tells_unless_oversized negativeReward
  obtain ⟨-, wrong⟩ := place_tells_unless_oversized hugeReward
  have failed : negativeReward.place.outcome =
      .error (.invalidAuxiliary (.configuredDevices (-4))) := rfl
  have configured : CountField.rewardDevices.value? negativeReward = some (-4) := rfl
  have tells := Tells.notPositive configured (by decide)
  have read : hugeReward.Reads .rewardNodes := by
    refine ⟨⟨by decide, by decide⟩, ?_⟩
    rintro rewardModel ⟨rfl⟩
    decide
  obtain ⟨refused, told⟩ := wrong .rewardNodes 4294967296 rfl read (by decide)
  exact ⟨failed, (right _ failed).mp tells, refused, told⟩

def hugeTrainer : Job := ⟨⟨4294967296, 8⟩, .standard, none⟩

/-- A count that is far above 0 is said not to be greater than 0. -/
theorem place_hugeTrainer :
    hugeTrainer.place.outcome = .error (.invalidCluster (.configuredNodes 4294967296)) ∧
    (PlanError.invalidCluster (.configuredNodes 4294967296)).message =
      "invalid cluster shape: trainer.nnodes must be greater than 0, got 4294967296" ∧
    0 < hugeTrainer.trainer.nodes.toInt ∧
    ¬ hugeTrainer.Tells (.invalidCluster (.configuredNodes 4294967296))
      "invalid cluster shape: trainer.nnodes must be greater than 0, got 4294967296" := by
  have failed : hugeTrainer.place.outcome =
      .error (.invalidCluster (.configuredNodes 4294967296)) := rfl
  have oversized : hugeTrainer.Oversized (.invalidCluster (.configuredNodes 4294967296)) :=
    ⟨.trainerNodes, 4294967296, rfl, trivial, by decide, rfl⟩
  exact ⟨failed, rfl, by decide, fun tells => not_oversized_of_tells tells oversized⟩

end Job

end DevicePlan
