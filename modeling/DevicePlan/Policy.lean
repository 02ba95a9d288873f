namespace DevicePlan

inductive Sharing where
  | colocated
  | split
deriving DecidableEq, Repr

namespace Sharing

def all : List Sharing := [colocated, split]

def name : Sharing → String
  | colocated => "colocated"
  | split => "split"

def ofName? : String → Option Sharing
  | "colocated" => some colocated
  | "split" => some split
  | _ => none

theorem mem_all (sharing : Sharing) : sharing ∈ all := by
  cases sharing <;> decide

theorem ofName?_eq_some_iff {text : String} {sharing : Sharing} :
    ofName? text = some sharing ↔ text = sharing.name := by
  constructor
  · intro found
    unfold ofName? at found
    split at found <;> cases found <;> rfl
  · rintro rfl
    cases sharing <;> rfl

end Sharing

structure AuxiliaryRequest where
  devicesPerNode : UInt32
  nodes : UInt32
  /-- Bind the reward model to the pool. Otherwise only an override can give the pool a role. -/
  bindRewardModel : Bool
deriving DecidableEq

structure Policy where
  sharing : Sharing
  auxiliary : Option AuxiliaryRequest
deriving DecidableEq

namespace Policy

def isSplit (policy : Policy) : Bool :=
  policy.sharing == .split

def describe (policy : Policy) : String :=
  let kind := match policy.sharing with
    | .colocated => "Colocated"
    | .split => "Split"
  match policy.auxiliary with
  | none => kind
  | some request =>
    kind ++ "WithAuxiliary(AuxiliaryPoolRequest \x7b " ++
      s!"devices_per_node: {request.devicesPerNode.toNat}, nodes: {request.nodes.toNat}, " ++
      s!"bind_reward_model: {request.bindRewardModel} \x7d)"

end Policy

structure PoolNames where
  global : String
  actor : String
  critic : String
  reward : String
deriving DecidableEq

namespace PoolNames

def standard : PoolNames :=
  ⟨"global_pool", "actor_rollout_ref_pool", "critic_pool", "reward_pool"⟩

def actorPool (names : PoolNames) (policy : Policy) : String :=
  match policy.sharing with
  | .colocated => names.global
  | .split => names.actor

end PoolNames

end DevicePlan
