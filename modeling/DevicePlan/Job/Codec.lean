import DevicePlan.Job
import DevicePlan.Policy.Codec

namespace DevicePlan.Job

namespace Trainer

def encode (trainer : Trainer) : Value :=
  .table [("nnodes", .integer trainer.nodes.toInt),
    ("n_gpus_per_node", .integer trainer.devicesPerNode.toInt)]

def fields : Fields Trainer :=
  mk <$> .required "nnodes" .int64 <*> .required "n_gpus_per_node" .int64

def decode (format : Format) : Decoder Trainer :=
  fields.decoder "TrainerConfig" format.excess

end Trainer

namespace Placement

def encodeName (name : Option String) : Value :=
  match name with
  | some name => .string name
  | none => .null

def encode (placement : Placement) : Value :=
  .table ([("policy", placement.sharing.encode),
    ("global_pool", encodeName placement.globalPool),
    ("actor_pool", encodeName placement.actorPool),
    ("critic_pool", encodeName placement.criticPool),
    ("reward_pool", encodeName placement.rewardPool)] ++
    if placement.overrides.isEmpty then []
    else [("overrides", .table (placement.overrides.entries.map fun (role, pool) =>
      (role, .string pool)))])

def fields (format : Format) : Fields Placement :=
  mk <$> .defaulted "policy" (Sharing.decode format) .colocated <*>
    .optional "global_pool" .string <*> .optional "actor_pool" .string <*>
    .optional "critic_pool" .string <*> .optional "reward_pool" .string <*>
    .defaulted "overrides" (.mapOf .string) .empty

def decode (format : Format) : Decoder Placement :=
  (fields format).decoder "PlacementConfig" format.excess

end Placement

namespace RewardModel

def encode (rewardModel : RewardModel) : Value :=
  .table [("enable", .boolean rewardModel.enabled),
    ("enable_resource_pool", .boolean rewardModel.ownPool),
    ("n_gpus_per_node", .integer rewardModel.devicesPerNode.toInt),
    ("nnodes", .integer rewardModel.nodes.toInt)]

def fields : Fields RewardModel :=
  mk <$> .defaulted "enable" .boolean false <*>
    .defaulted "enable_resource_pool" .boolean false <*>
    .defaulted "n_gpus_per_node" .int64 0 <*> .defaulted "nnodes" .int64 0

def decode (format : Format) : Decoder RewardModel :=
  fields.decoder "RewardModelConfig" format.excess

end RewardModel

def encode (job : Job) : Value :=
  .table [("trainer", job.trainer.encode), ("placement", job.placement.encode),
    ("reward_model", (job.rewardModel.map RewardModel.encode).getD .null)]

def fields (format : Format) : Fields Job :=
  mk <$> .required "trainer" (Trainer.decode format) <*>
    .defaulted "placement" (Placement.decode format) .standard <*>
    .optional "reward_model" (RewardModel.decode format)

def decode (format : Format) : Decoder Job :=
  (fields format).decoder "JobConfig" format.excess

end DevicePlan.Job
