import DevicePlan.Job.Codec
import DevicePlan.Toml.Reader
import DevicePlan.Toml.Writer

namespace DevicePlan.Job

def nameEntry (key : String) (name : Option String) : List (String × Toml.Scalar) :=
  name.toList.map fun name => (key, .string name)

def Trainer.part (trainer : Trainer) : Toml.Section :=
  ⟨[], "trainer", [("nnodes", .integer trainer.nodes),
    ("n_gpus_per_node", .integer trainer.devicesPerNode)]⟩

def Placement.parts (placement : Placement) : List Toml.Section :=
  ⟨[], "placement", ("policy", .string placement.sharing.name) ::
    nameEntry "global_pool" placement.globalPool ++ nameEntry "actor_pool" placement.actorPool ++
    nameEntry "critic_pool" placement.criticPool ++
    nameEntry "reward_pool" placement.rewardPool⟩ ::
  if placement.overrides.isEmpty then []
  else [⟨["placement"], "overrides",
    placement.overrides.entries.map fun (role, pool) => (role, .string pool)⟩]

def RewardModel.part (rewardModel : RewardModel) : Toml.Section :=
  ⟨[], "reward_model", [("enable", .boolean rewardModel.enabled),
    ("enable_resource_pool", .boolean rewardModel.ownPool),
    ("n_gpus_per_node", .integer rewardModel.devicesPerNode),
    ("nnodes", .integer rewardModel.nodes)]⟩

def parts (job : Job) : List Toml.Section :=
  job.trainer.part :: job.placement.parts ++ (job.rewardModel.map RewardModel.part).toList

def toToml (job : Job) : String := Toml.write job.parts

/-- Why a text is no configuration. Of a fault only its kind and its message are kept. The library
that reads TOML also shows the line and column of the fault, the text at that place and the keys
that lead there; these are left out, as is the wording of a fault of syntax. -/
inductive LoadError where
  | malformed
  | decode (error : DecodeError)
deriving DecidableEq

def ofToml (text : String) : Except LoadError Job :=
  match Toml.read? text with
  | none => .error .malformed
  | some members =>
    match decode .toml (.table members) with
    | .ok job => .ok job
    | .error error => .error (.decode error)

/-- The configuration of a JSON value, whatever the order of its keys. -/
def ofJson (value : Value) : Except DecodeError Job := decode .json value.sorted

end DevicePlan.Job
