import DevicePlan.Proofs.Placement.Fault
import Mathlib.Data.List.Basic

/-!
# Pools under other names

Names of pools are compared with each other and copied into results, and nothing else is done with
them. So whatever is done to pools whose names have been changed, each in its own way, comes out as
it would have come out before, under the new names: the checks of a layout (`Layout.fault_rename`),
its freeze, the placement, its log and its errors (`place_rename`).
-/

namespace DevicePlan

section Definitions

variable (f : String → String)

def Pool.rename (pool : Pool) : Pool := { pool with name := f pool.name }

def Layout.rename (layout : Layout) : Layout :=
  { layout with pools := layout.pools.map (Pool.rename f) }

def Bindings.rename (bindings : Bindings) : Bindings where
  actorRollout := bindings.actorRollout.map f
  critic := bindings.critic.map f
  rewardModel := bindings.rewardModel.map f
  reference := bindings.reference.map f

def Plan.rename (plan : Plan) : Plan where
  cluster := plan.cluster
  pools := plan.pools.map (Pool.rename f)
  bindings := plan.bindings.rename f

def PoolNames.rename (names : PoolNames) : PoolNames :=
  ⟨f names.global, f names.actor, f names.critic, f names.reward⟩

def AuxiliaryFault.rename : AuxiliaryFault → AuxiliaryFault
  | noDevices pool => noDevices (f pool)
  | noNodes pool => noNodes (f pool)
  | tooManyNodes pool nodes => tooManyNodes (f pool) nodes
  | emptyNode pool => emptyNode (f pool)
  | configuredDevices value => configuredDevices value
  | configuredNodes value => configuredNodes value

def PlanError.rename : PlanError → PlanError
  | invalidCluster fault => invalidCluster fault
  | invalidAuxiliary fault => invalidAuxiliary (fault.rename f)
  | unknownPool role pool => unknownPool role (f pool)
  | duplicatePool name => duplicatePool (f name)
  | overAllocation node requested available => overAllocation node requested available
  | rowMismatch pool expected actual => rowMismatch (f pool) expected actual
  | unboundRole role => unboundRole role
  | unknownRoleName text => unknownRoleName text

def Event.rename : Event → Event
  | builtColocated pool nodes devicesPerNode => builtColocated (f pool) nodes devicesPerNode
  | builtSplit first firstDevices second secondDevices nodes =>
    builtSplit (f first) firstDevices (f second) secondDevices nodes
  | addedAuxiliary pool devicesPerNode nodes => addedAuxiliary (f pool) devicesPerNode nodes
  | bound role pool => bound role (f pool)
  | rebound role previous pool => rebound role (f previous) (f pool)
  | assembled policy pools overrides => assembled policy pools overrides
  | frozen cluster pools roles => frozen cluster (pools.map (Pool.rename f)) roles

def renameOutcome {α β : Type} (value : α → β) (outcome : Except PlanError α) :
    Except PlanError β :=
  (outcome.map value).mapError (PlanError.rename f)

def Run.rename {α β : Type} (value : α → β) (run : Run α) : Run β where
  events := run.events.map (Event.rename f)
  outcome := renameOutcome f value run.outcome

end Definitions

variable {f : String → String}

section Runs

variable {α β γ δ : Type} {value : α → β}

theorem Run.rename_bind {last : γ → δ} {run : Run α} {next : α → Run γ} {next' : β → Run δ}
    (later : ∀ result, next' (value result) = (next result).rename f last) :
    run.rename f value >>= next' = (run >>= next).rename f last := by
  obtain ⟨events, outcome⟩ := run
  cases outcome with
  | error error =>
    apply Run.ext
    · simp [events_bind, rename, renameOutcome, Except.map, Except.mapError]
    · rfl
  | ok result =>
    apply Run.ext
    · simp [events_bind, rename, renameOutcome, Except.map, Except.mapError, later]
    · change (next' (value result)).outcome = renameOutcome f last (next result).outcome
      rw [later]
      rfl

theorem Run.rename_reporting {outcome : Except PlanError α} {event : α → Event}
    {event' : β → Event} (same : ∀ result, event' (value result) = (event result).rename f) :
    Run.reporting (renameOutcome f value outcome) event' =
      (Run.reporting outcome event).rename f value := by
  cases outcome with
  | error error => rfl
  | ok result =>
    apply Run.ext
    · simp [reporting, rename, renameOutcome, Except.map, Except.mapError, same]
    · rfl

end Runs

namespace Bindings

@[simp]
theorem get_rename (bindings : Bindings) (role : Role) :
    (bindings.rename f).get role = (bindings.get role).map f := by
  cases role <;> rfl

theorem rename_bind (bindings : Bindings) (role : Role) (pool : String) :
    (bindings.bind role pool).rename f = (bindings.rename f).bind role (f pool) := by
  cases role <;> rfl

theorem toList_rename (bindings : Bindings) :
    (bindings.rename f).toList = bindings.toList.map (Prod.map id f) := by
  unfold toList
  rw [List.map_filterMap]
  refine List.filterMap_congr fun role _ => ?_
  cases bound : bindings.get role <;> simp [bound]

theorem size_rename (bindings : Bindings) : (bindings.rename f).size = bindings.size := by
  rw [size, toList_rename, List.length_map, size]

end Bindings

namespace Layout

theorem rename_push (layout : Layout) (pool : Pool) :
    (layout.push pool).rename f = (layout.rename f).push (pool.rename f) := by
  simp [push, rename]

theorem declares_rename (injective : Function.Injective f) (layout : Layout) (name : String) :
    (layout.rename f).declares (f name) = layout.declares name := by
  have same : (fun pool : Pool => pool.name == f name) ∘ Pool.rename f =
      fun pool => pool.name == name := by
    funext pool
    simp [Pool.rename, injective.eq_iff]
  simp only [declares, find?, rename, List.find?_map, same, Option.isSome_map]

theorem split_rename (cluster : Cluster) (first second : String) :
    split cluster (f first) (f second) =
      renameOutcome f (rename f) (split cluster first second) := by
  unfold split
  split <;> rfl

theorem addAuxiliary_rename (layout : Layout) (name : String) (devicesPerNode nodes : UInt32) :
    (layout.rename f).addAuxiliary (f name) devicesPerNode nodes =
      renameOutcome f (rename f) (layout.addAuxiliary name devicesPerNode nodes) := by
  unfold addAuxiliary
  split
  · rfl
  · split
    · rfl
    · split
      · rfl
      · have pushed := layout.rename_push (.uniform name devicesPerNode nodes .auxiliary) (f := f)
        exact congrArg Except.ok pushed.symm

/-! ## The checks of a layout -/

theorem primaryPools_rename (layout : Layout) :
    (layout.rename f).primaryPools = layout.primaryPools.map (Pool.rename f) := by
  rw [primaryPools, rename, List.filter_map]
  rfl

theorem load?_rename (layout : Layout) (node : Nat) :
    (layout.rename f).load? node = layout.load? node := by
  rw [load?, primaryPools_rename, List.mapM_map]
  rfl

theorem firstRepeat_map (injective : Function.Injective f) (seen names : List String) :
    firstRepeat (seen.map f) (names.map f) = (firstRepeat seen names).map f := by
  induction names generalizing seen with
  | nil => rfl
  | cons name rest ih =>
    simp only [List.map_cons, firstRepeat, List.mem_map_of_injective injective,
      apply_ite (Option.map f), ← ih]
    rfl

theorem nameFault_rename (injective : Function.Injective f) (layout : Layout) :
    (layout.rename f).nameFault = layout.nameFault.map (PlanError.rename f) := by
  have names : (layout.rename f).pools.map Pool.name = (layout.pools.map Pool.name).map f := by
    simp [rename, Pool.rename]
  have repeated := firstRepeat_map injective [] (layout.pools.map Pool.name)
  rw [nameFault, names, ← List.map_nil (f := f), repeated, nameFault, Option.map_map,
    Option.map_map]
  rfl

theorem bindingFault_rename (injective : Function.Injective f) (layout : Layout)
    (bindings : Bindings) :
    (layout.rename f).bindingFault (bindings.rename f) =
      (layout.bindingFault bindings).map (PlanError.rename f) := by
  rw [bindingFault, Bindings.toList_rename, List.findSome?_map, bindingFault,
    List.map_findSome?]
  refine congrArg (bindings.toList.findSome? ·) (funext fun entry => ?_)
  simp [declares_rename injective, PlanError.rename, apply_ite]

theorem rowFault_rename (layout : Layout) (pool : Pool) :
    (layout.rename f).rowFault (pool.rename f) =
      (layout.rowFault pool).map (PlanError.rename f) := by
  unfold rowFault
  simp only [apply_ite (Option.map (PlanError.rename f))]
  rfl

theorem shapeFault_rename (layout : Layout) :
    (layout.rename f).shapeFault = layout.shapeFault.map (PlanError.rename f) := by
  have same : (layout.rename f).rowFault ∘ Pool.rename f =
      Option.map (PlanError.rename f) ∘ layout.rowFault := funext layout.rowFault_rename
  rw [shapeFault, shapeFault, List.map_findSome?, ← same, ← List.findSome?_map]
  rfl

theorem budgetFault_rename (layout : Layout) :
    (layout.rename f).budgetFault = layout.budgetFault.map (PlanError.rename f) := by
  unfold budgetFault
  rw [List.map_findSome?]
  simp only [load?_rename]
  refine congrArg (List.findSome? · _) (funext fun node => ?_)
  cases loaded : layout.load? node with
  | none => simp [loaded]
  | some requested =>
    simp only [loaded, Function.comp, Option.bind_some, apply_ite (Option.map (PlanError.rename f))]
    rfl

theorem fault_rename (injective : Function.Injective f) (layout : Layout) (bindings : Bindings) :
    (layout.rename f).fault (bindings.rename f) =
      (layout.fault bindings).map (PlanError.rename f) := by
  simp only [fault, nameFault_rename injective, bindingFault_rename injective, shapeFault_rename,
    budgetFault_rename, Option.orElse_eq_orElse, Option.orElse_eq_or, Option.map_or]

end Layout

theorem Plan.freeze_rename (injective : Function.Injective f) (layout : Layout)
    (bindings : Bindings) :
    freeze (layout.rename f) (bindings.rename f) =
      renameOutcome f (rename f) (freeze layout bindings) := by
  unfold freeze
  rw [Layout.fault_rename injective]
  cases layout.fault bindings <;> rfl

/-! ## The steps of a placement -/

namespace Bindings

theorem attach_rename (injective : Function.Injective f) (bindings : Bindings) (layout : Layout)
    (role : Role) (pool : String) :
    (bindings.rename f).attach (layout.rename f) role (f pool) =
      renameOutcome f (rename f) (bindings.attach layout role pool) := by
  rw [attach, attach, Layout.declares_rename injective]
  split
  · exact congrArg Except.ok (rename_bind bindings role pool).symm
  · rfl

theorem attachEvent_rename (injective : Function.Injective f) (bindings : Bindings) (role : Role)
    (pool : String) :
    (bindings.rename f).attachEvent role (f pool) = (bindings.attachEvent role pool).rename f := by
  rw [attachEvent, attachEvent, get_rename]
  cases bindings.get role with
  | none => rfl
  | some previous =>
    -- Two pools are told apart here by their names, which needs the new names to differ too.
    simp only [Option.map_some, injective.eq_iff, apply_ite (Event.rename f)]
    rfl

theorem runAttachAll_rename (injective : Function.Injective f) (bindings : Bindings)
    (layout : Layout) (entries : List (Role × String)) :
    (bindings.rename f).runAttachAll (layout.rename f) (entries.map (Prod.map id f)) =
      (bindings.runAttachAll layout entries).rename f (rename f) := by
  -- A rebinding names the pool that the role leaves, so the bindings change along the way.
  induction entries generalizing bindings with
  | nil => rfl
  | cons entry rest ih =>
    obtain ⟨role, pool⟩ := entry
    have here : (bindings.rename f).runAttach (layout.rename f) role (f pool) =
        (bindings.runAttach layout role pool).rename f (rename f) := by
      rw [runAttach, attach_rename injective, runAttach]
      exact Run.rename_reporting fun _ => attachEvent_rename injective bindings role pool
    change (bindings.rename f).runAttach (layout.rename f) role (f pool) >>= (fun next =>
      next.runAttachAll (layout.rename f) (rest.map (Prod.map id f))) = _
    rw [here]
    exact Run.rename_bind ih

end Bindings

namespace Policy

theorem runBuild_rename (policy : Policy) (cluster : Cluster) (names : PoolNames) :
    policy.runBuild cluster (names.rename f) =
      (policy.runBuild cluster names).rename f (Layout.rename f) := by
  have primary : policy.runPrimary cluster (names.rename f) =
      (policy.runPrimary cluster names).rename f (Layout.rename f) := by
    unfold runPrimary
    cases policy.sharing with
    | colocated => rfl
    | split =>
      change Layout.runSplit cluster (f names.actor) (f names.critic) = _
      rw [Layout.runSplit, Layout.split_rename]
      exact Run.rename_reporting fun _ => rfl
  rw [runBuild, primary, runBuild]
  refine Run.rename_bind fun layout => ?_
  cases policy.auxiliary with
  | none => rfl
  | some request =>
    change (layout.rename f).runAddAuxiliary (f names.reward) _ _ = _
    rw [Layout.runAddAuxiliary, Layout.addAuxiliary_rename]
    exact Run.rename_reporting fun _ => rfl

theorem attachments_rename (policy : Policy) (names : PoolNames) :
    policy.attachments (names.rename f) = (policy.attachments names).map (Prod.map id f) := by
  unfold attachments
  split <;> rfl

theorem primaryBindings_rename (policy : Policy) (names : PoolNames) :
    policy.primaryBindings (names.rename f) = (policy.primaryBindings names).rename f := by
  unfold primaryBindings
  cases policy.sharing <;> rfl

theorem runAttachments_rename (injective : Function.Injective f) (policy : Policy)
    (names : PoolNames) (overrides : List (Role × String)) (layout : Layout) :
    policy.runAttachments (names.rename f) (overrides.map (Prod.map id f)) (layout.rename f) =
      (policy.runAttachments names overrides layout).rename f (Bindings.rename f) := by
  rw [runAttachments, primaryBindings_rename, attachments_rename, ← List.map_append]
  exact Bindings.runAttachAll_rename injective _ layout _

theorem runFinish_rename (injective : Function.Injective f) (policy : Policy) (overrides : Nat)
    (layout : Layout) (bindings : Bindings) :
    policy.runFinish overrides (layout.rename f) (bindings.rename f) =
      (policy.runFinish overrides layout bindings).rename f (Plan.rename f) := by
  have frozen : Plan.runFreeze (layout.rename f) (bindings.rename f) =
      (Plan.runFreeze layout bindings).rename f (Plan.rename f) := by
    rw [Plan.runFreeze, Plan.freeze_rename injective, Plan.runFreeze]
    refine Run.rename_reporting fun plan => ?_
    simp [Plan.rename, Event.rename, Bindings.size_rename]
  have length : (layout.rename f).pools.length = layout.pools.length := List.length_map _
  have reported : Run.report (.assembled policy layout.pools.length overrides) =
      (Run.report (.assembled policy layout.pools.length overrides)).rename f id := rfl
  rw [runFinish, frozen, length, reported]
  exact Run.rename_bind fun _ => rfl

end Policy

/-! ## The statement -/

theorem place_rename (injective : Function.Injective f) (cluster : Cluster) (policy : Policy)
    (names : PoolNames) (overrides : List (Role × String)) :
    place cluster policy (names.rename f) (overrides.map (Prod.map id f)) =
        (place cluster policy names overrides).rename f (Plan.rename f) ∧
      ∀ layout bindings, Plan.freeze (Layout.rename f layout) (Bindings.rename f bindings) =
        renameOutcome f (Plan.rename f) (Plan.freeze layout bindings) := by
  refine ⟨?_, Plan.freeze_rename injective⟩
  rw [place_eq, place_eq, Policy.runBuild_rename, List.length_map]
  refine Run.rename_bind fun layout => ?_
  rw [Policy.runAttachments_rename injective]
  exact Run.rename_bind fun bindings => policy.runFinish_rename injective _ layout bindings

def filed (name : String) : String := "lab/" ++ name

theorem filed_injective : Function.Injective filed :=
  fun _ _ same => (String.append_right_inj "lab/").mp same

theorem place_filed :
    (place Plan.fullNodes.cluster .oddSplit (PoolNames.rename filed .standard)
      [(.critic, "lab/reward_pool")]).outcome = .ok
        ⟨Plan.fullNodes.cluster, [⟨"lab/actor_rollout_ref_pool", #[2, 2], .primary⟩,
          ⟨"lab/critic_pool", #[2, 2], .primary⟩, ⟨"lab/reward_pool", #[4], .auxiliary⟩],
          ⟨some "lab/actor_rollout_ref_pool", some "lab/reward_pool", some "lab/reward_pool",
            some "lab/actor_rollout_ref_pool"⟩⟩ ∧
    (place Plan.fullNodes.cluster .oddSplit (PoolNames.rename filed .colliding)
      (strayReference.map (Prod.map id filed))).outcome =
        .error (.unknownPool .reference "lab/nowhere") ∧
    Plan.freeze (Plan.crowded.rename filed) (.split "lab/first" "lab/own") =
      .error (.overAllocation 2 9 8) := by
  obtain ⟨placed, -⟩ := place_rename filed_injective Plan.fullNodes.cluster .oddSplit .standard
    [(.critic, "reward_pool")]
  obtain ⟨stray, frozen⟩ := place_rename filed_injective Plan.fullNodes.cluster .oddSplit
    .colliding strayReference
  refine ⟨(congrArg Run.outcome placed).trans ?_, (congrArg Run.outcome stray).trans ?_,
    (frozen Plan.crowded (.split "first" "own")).trans ?_⟩
  · decide +kernel
  · decide +kernel
  · decide +kernel

end DevicePlan
