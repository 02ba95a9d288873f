import DevicePlan.Job
import DevicePlan.Placement

namespace DevicePlan

def positiveCount? (value : Int64) : Option UInt32 :=
  if 0 < value.toInt ∧ value.toInt ≤ 0xffffffff then some (UInt32.ofNat value.toInt.toNat)
  else none

namespace Job

def cluster (job : Job) : Except PlanError Cluster :=
  match positiveCount? job.trainer.nodes with
  | none => .error (.invalidCluster (.configuredNodes job.trainer.nodes))
  | some nodes =>
    match positiveCount? job.trainer.devicesPerNode with
    | none => .error (.invalidCluster (.configuredDevices job.trainer.devicesPerNode))
    | some devicesPerNode => Cluster.ofCounts nodes devicesPerNode

def RewardModel.request (rewardModel : RewardModel) : Except PlanError AuxiliaryRequest :=
  match positiveCount? rewardModel.devicesPerNode with
  | none => .error (.invalidAuxiliary (.configuredDevices rewardModel.devicesPerNode))
  | some devicesPerNode =>
    match positiveCount? rewardModel.nodes with
    | none => .error (.invalidAuxiliary (.configuredNodes rewardModel.nodes))
    | some nodes => .ok ⟨devicesPerNode, nodes, rewardModel.enabled⟩

def policy (job : Job) : Except PlanError Policy :=
  match job.rewardModel.filter RewardModel.ownPool with
  | none => .ok ⟨job.placement.sharing, none⟩
  | some rewardModel => do
    let request ← rewardModel.request
    return ⟨job.placement.sharing, some request⟩

def poolNames (job : Job) : PoolNames where
  global := job.placement.globalPool.getD PoolNames.standard.global
  actor := job.placement.actorPool.getD PoolNames.standard.actor
  critic := job.placement.criticPool.getD PoolNames.standard.critic
  reward := job.placement.rewardPool.getD PoolNames.standard.reward

def sharesRewardModel (job : Job) : Bool :=
  job.rewardModel.any fun rewardModel => rewardModel.enabled && !rewardModel.ownPool

def namedOverrides (job : Job) : Except PlanError (List (Role × String)) :=
  job.placement.overrides.entries.mapM fun (name, pool) => do
    let role ← Role.ofName name
    return (role, pool)

/-- All bindings that go on top of the policy's own, in the order in which they apply. -/
def overrides (job : Job) (names : PoolNames) (policy : Policy) :
    Except PlanError (List (Role × String)) := do
  let named ← job.namedOverrides
  let shared := if job.sharesRewardModel then [(.rewardModel, names.actorPool policy)] else []
  return shared ++ named

def place (job : Job) : Run Plan :=
  match job.cluster with
  | .error error => ⟨[], .error error⟩
  | .ok cluster =>
    match job.policy with
    | .error error => ⟨[], .error error⟩
    | .ok policy =>
      match job.overrides job.poolNames policy with
      | .error error => ⟨[], .error error⟩
      | .ok overrides => DevicePlan.place cluster policy job.poolNames overrides

end Job

end DevicePlan
