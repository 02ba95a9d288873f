import DevicePlan.Proofs.Job.Pinned
import Mathlib.Logic.Relation

namespace DevicePlan

inductive PoolNames.Field where
  | global
  | actor
  | critic
  | reward
deriving DecidableEq

def PoolNames.nameOf (names : PoolNames) : Field → String
  | .global => names.global
  | .actor => names.actor
  | .critic => names.critic
  | .reward => names.reward

namespace Policy

def Uses (policy : Policy) : PoolNames.Field → Prop
  | .global => policy.sharing = .colocated
  | .actor | .critic => policy.sharing = .split
  | .reward => policy.auxiliary.isSome

section Agreement

variable {policy : Policy} {names other : PoolNames}
  (agree : ∀ field, policy.Uses field → names.nameOf field = other.nameOf field)

include agree

theorem primary_congr (cluster : Cluster) :
    policy.runPrimary cluster names = policy.runPrimary cluster other ∧
      policy.primaryBindings names = policy.primaryBindings other ∧
      names.actorPool policy = other.actorPool policy := by
  unfold runPrimary primaryBindings PoolNames.actorPool
  cases shared : policy.sharing with
  | colocated =>
    have global : names.global = other.global := agree .global shared
    simp only [global, and_self]
  | split =>
    have actor : names.actor = other.actor := agree .actor shared
    have critic : names.critic = other.critic := agree .critic shared
    simp only [actor, critic, and_self]

theorem runAuxiliary_congr (layout : Layout) (bindings : Bindings) :
    policy.runAuxiliary names layout bindings = policy.runAuxiliary other layout bindings := by
  unfold runAuxiliary
  cases asked : policy.auxiliary with
  | none => rfl
  | some request =>
    have reward : names.reward = other.reward := agree .reward (by simp [Uses, asked])
    simp only [reward]

theorem place_congr_names (cluster : Cluster) (overrides : List (Role × String)) :
    place cluster policy names overrides = place cluster policy other overrides := by
  obtain ⟨pools, bindings, -⟩ := primary_congr agree cluster
  unfold place
  simp only [pools, bindings, runAuxiliary_congr agree]

end Agreement

end Policy

namespace Job

def Uses (job : Job) : PoolNames.Field → Prop
  | .global => job.placement.sharing = .colocated
  | .actor | .critic => job.placement.sharing = .split
  | .reward => job.wantsRewardPool = true

theorem uses_policy {job : Job} {policy : Policy} (governed : job.policy = .ok policy)
    (field : PoolNames.Field) : policy.Uses field ↔ job.Uses field := by
  have sharing := (policy_eq_ok_iff.mp governed).1
  cases field with
  | global | actor | critic => simp [Policy.Uses, Uses, sharing]
  | reward =>
    rcases policy_cases governed with ⟨absent, shared⟩ | ⟨rewardModel, _, present, own, asked, -⟩
    · cases present : job.rewardModel with
      | none => simp [Policy.Uses, Uses, absent, wantsRewardPool, present]
      | some rewardModel =>
        simp [Policy.Uses, Uses, absent, wantsRewardPool, present, shared rewardModel present]
    · simp [Policy.Uses, Uses, asked, wantsRewardPool, present, own]

/-- The placement of a job depends on its parts as they are read, and of its names only on those
that it uses. -/
theorem place_congr {job other : Job} (cluster : job.cluster = other.cluster)
    (policy : job.policy = other.policy) (named : job.namedOverrides = other.namedOverrides)
    (shares : job.sharesRewardModel = other.sharesRewardModel)
    (names : ∀ field, job.Uses field → job.poolNames.nameOf field = other.poolNames.nameOf field) :
    job.place = other.place := by
  unfold place
  rw [← cluster, ← policy]
  cases job.cluster with
  | error error => rfl
  | ok shape =>
    cases governed : job.policy with
    | error error => rfl
    | ok rules =>
      have agree : ∀ field, rules.Uses field →
          job.poolNames.nameOf field = other.poolNames.nameOf field :=
        fun field used => names field ((uses_policy governed field).mp used)
      have overrides : job.overrides job.poolNames rules =
          other.overrides other.poolNames rules := by
        obtain ⟨-, -, actorPool⟩ := Policy.primary_congr agree shape
        rw [Job.overrides, Job.overrides, named, shares, actorPool]
      simp only [overrides, Policy.place_congr_names agree]

def withName (job : Job) (name : Option String) : PoolNames.Field → Job
  | .global => { job with placement := { job.placement with globalPool := name } }
  | .actor => { job with placement := { job.placement with actorPool := name } }
  | .critic => { job with placement := { job.placement with criticPool := name } }
  | .reward => { job with placement := { job.placement with rewardPool := name } }

def nameChoice (job : Job) : PoolNames.Field → Option String
  | .global => job.placement.globalPool
  | .actor => job.placement.actorPool
  | .critic => job.placement.criticPool
  | .reward => job.placement.rewardPool

inductive UnusedChange : Job → Job → Prop where
  | unusedName {job : Job} {field : PoolNames.Field} (unused : ¬job.Uses field)
    (name : Option String) : UnusedChange job (job.withName name field)
  | standardName {job : Job} {field : PoolNames.Field} (absent : job.nameChoice field = none) :
    UnusedChange job (job.withName (some (PoolNames.standard.nameOf field)) field)
  | rewardCounts {job : Job} {rewardModel : RewardModel}
    (present : job.rewardModel = some rewardModel) (shared : rewardModel.ownPool = false)
    (devicesPerNode nodes : Int64) :
    UnusedChange job { job with rewardModel := some { rewardModel with devicesPerNode, nodes } }
  | idleRewardModel {job : Job} (absent : job.rewardModel = none) (devicesPerNode nodes : Int64) :
    UnusedChange job { job with rewardModel := some ⟨false, false, devicesPerNode, nodes⟩ }

theorem nameOf_poolNames (job : Job) (field : PoolNames.Field) :
    job.poolNames.nameOf field =
      (job.nameChoice field).getD (PoolNames.standard.nameOf field) := by
  cases field <;> rfl

theorem nameChoice_withName (job : Job) (name : Option String) (field other : PoolNames.Field) :
    (job.withName name field).nameChoice other =
      if other = field then name else job.nameChoice other := by
  cases field <;> cases other <;> rfl

theorem place_withName {job : Job} {field : PoolNames.Field} {name : Option String}
    (same : job.Uses field → (job.withName name field).poolNames.nameOf field =
      job.poolNames.nameOf field) : job.place = (job.withName name field).place := by
  have names : ∀ other, job.Uses other →
      job.poolNames.nameOf other = (job.withName name field).poolNames.nameOf other := by
    intro other used
    by_cases here : other = field
    · rw [here, same (here ▸ used)]
    -- The choices for the other names are left as they are.
    · rw [nameOf_poolNames, nameOf_poolNames, nameChoice_withName, if_neg here]
  cases field <;> exact place_congr rfl rfl rfl rfl names

theorem policy_of_shared {job : Job} (shared : job.wantsRewardPool = false) :
    job.policy = .ok ⟨job.placement.sharing, none⟩ := by
  have unasked : job.rewardModel.filter RewardModel.ownPool = none := by
    cases present : job.rewardModel with
    | none => rfl
    | some rewardModel => simpa [wantsRewardPool, present] using shared
  rw [Job.policy, unasked]

theorem place_of_step {job other : Job} (change : job.UnusedChange other) :
    job.place = other.place := by
  cases change with
  | unusedName unused name => exact place_withName fun used => absurd used unused
  | @standardName field absent =>
    refine place_withName fun _ => ?_
    rw [nameOf_poolNames, nameOf_poolNames, nameChoice_withName, if_pos rfl, absent]
    rfl
  | @rewardCounts rewardModel present shared devicesPerNode nodes =>
    have before : job.wantsRewardPool = false := by simpa [wantsRewardPool, present] using shared
    have after : wantsRewardPool { job with
        rewardModel := some { rewardModel with devicesPerNode, nodes } } = false := shared
    refine place_congr rfl ?_ rfl ?_ fun _ _ => rfl
    · rw [policy_of_shared before, policy_of_shared after]
    · simp [sharesRewardModel, present]
  | idleRewardModel absent devicesPerNode nodes =>
    have before : job.wantsRewardPool = false := by simp [wantsRewardPool, absent]
    have after : wantsRewardPool
        { job with rewardModel := some ⟨false, false, devicesPerNode, nodes⟩ } = false := rfl
    refine place_congr rfl ?_ rfl ?_ fun _ _ => rfl
    · rw [policy_of_shared before, policy_of_shared after]
    · simp [sharesRewardModel, absent]

theorem place_of_unusedChange {job other : Job} (alike : Relation.EqvGen UnusedChange job other) :
    job.place = other.place := by
  induction alike with
  | rel job other change => exact place_of_step change
  | refl job => rfl
  | symm job other _ same => exact same.symm
  | trans first second third _ _ before after => exact before.trans after

def clutteredReference : Job :=
  ⟨⟨1, 7⟩, ⟨.split, some "critic_pool", some "a", some "critic_pool", some "a",
    .ofList [("reference", "critic_pool")]⟩, some ⟨true, false, -1, 4294967296⟩⟩

theorem place_clutteredReference :
    Relation.EqvGen UnusedChange movedReference clutteredReference ∧
    clutteredReference.place.outcome = .ok movedReferencePlan := by
  have noGlobal : ¬movedReference.Uses .global := nofun
  have noReward : ¬(movedReference.withName (some "critic_pool") .global).Uses .reward := nofun
  have alike : Relation.EqvGen UnusedChange movedReference clutteredReference :=
    .trans _ _ _ (.rel _ _ (.unusedName noGlobal (some "critic_pool"))) <|
    .trans _ _ _ (.rel _ _ (.unusedName noReward (some "a"))) <|
    .trans _ _ _ (.rel _ _ (@UnusedChange.standardName _ .critic rfl)) <|
    .rel _ _ (@UnusedChange.rewardCounts _ ⟨true, false, 0, 0⟩ rfl rfl (-1) 4294967296)
  have placed : movedReference.place.outcome = .ok movedReferencePlan := by decide +kernel
  exact ⟨alike, (congrArg Run.outcome (place_of_unusedChange alike)).symm.trans placed⟩

end Job

end DevicePlan
