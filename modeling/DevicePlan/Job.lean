import DevicePlan.NameMap
import DevicePlan.Policy

namespace DevicePlan

/-- Counts are signed, so that a bad one reaches the checks of the placement and is reported by
them. -/
structure Job.Trainer where
  nodes : Int64
  devicesPerNode : Int64
deriving DecidableEq

structure Job.Placement where
  sharing : Sharing
  globalPool : Option String
  actorPool : Option String
  criticPool : Option String
  rewardPool : Option String
  /-- The pool of a role, by the role's name; applied after the policy's own bindings. -/
  overrides : NameMap String
deriving DecidableEq

structure Job.RewardModel where
  enabled : Bool
  ownPool : Bool
  devicesPerNode : Int64
  nodes : Int64
deriving DecidableEq

structure Job where
  trainer : Job.Trainer
  placement : Job.Placement
  rewardModel : Option Job.RewardModel
deriving DecidableEq

namespace Job

def Placement.standard : Placement := ⟨.colocated, none, none, none, none, .empty⟩

def RewardModel.standard : RewardModel := ⟨false, false, 0, 0⟩

def wantsRewardPool (job : Job) : Bool :=
  job.rewardModel.any RewardModel.ownPool

def starter (sharing : Sharing) : Job :=
  ⟨⟨1, 8⟩, { Placement.standard with sharing }, some .standard⟩

end Job

end DevicePlan
