import DevicePlan.Proofs.Overrides

/-!
# Layouts and bindings under construction

A draft is a layout with the bindings that are being made over it. A step declares one pool or
attaches one role, and a step that fails changes nothing. The pool of a step is added behind those
declared before (`pools_run`), so a name that was declared when a role was attached to it still is
when the draft is frozen, and freezing never meets a binding to an unknown pool
(`run_keeps_declared_bindings`).
-/

namespace DevicePlan

structure Layout.Extends (layout earlier : Layout) : Prop where
  cluster : layout.cluster = earlier.cluster
  pools : earlier.pools <+: layout.pools

namespace Layout.Extends

theorem refl (layout : Layout) : layout.Extends layout :=
  ⟨rfl, List.prefix_refl layout.pools⟩

theorem trans {later layout earlier : Layout} (second : later.Extends layout)
    (first : layout.Extends earlier) : later.Extends earlier :=
  ⟨second.cluster.trans first.cluster, first.pools.trans second.pools⟩

theorem push (layout : Layout) (pool : Pool) : (layout.push pool).Extends layout :=
  ⟨rfl, List.prefix_append layout.pools [pool]⟩

theorem mem_names {layout earlier : Layout} (grown : layout.Extends earlier) {name : String}
    (declared : name ∈ earlier.names) : name ∈ layout.names :=
  (grown.pools.map Pool.name).subset declared

end Layout.Extends

structure Draft where
  layout : Layout
  bindings : Bindings
deriving DecidableEq

namespace Draft

inductive Step where
  | addPrimary (name : String) (rows : Array UInt32)
  | push (pool : Pool)
  | addAuxiliary (name : String) (devicesPerNode nodes : UInt32)
  | attach (role : Role) (pool : String)
deriving DecidableEq

def step? (draft : Draft) : Step → Except PlanError Draft
  | .addPrimary name rows => .ok { draft with layout := draft.layout.addPrimary name rows }
  | .push pool => .ok { draft with layout := draft.layout.push pool }
  | .addAuxiliary name devicesPerNode nodes => do
    let layout ← draft.layout.addAuxiliary name devicesPerNode nodes
    return { draft with layout }
  | .attach role pool => do
    let bindings ← draft.bindings.attach draft.layout role pool
    return { draft with bindings }

def step (draft : Draft) (step : Step) : Draft :=
  match draft.step? step with
  | .ok next => next
  | .error _ => draft

def run (draft : Draft) (steps : List Step) : Draft := steps.foldl Draft.step draft

def newPool? (draft : Draft) : Step → Option Pool
  | .addPrimary name rows => some ⟨name, rows, .primary⟩
  | .push pool => some pool
  | .addAuxiliary name devicesPerNode nodes =>
    match draft.step? (.addAuxiliary name devicesPerNode nodes) with
    | .ok _ => some (.uniform name devicesPerNode nodes .auxiliary)
    | .error _ => none
  | .attach .. => none

def newPools (draft : Draft) : List Step → List Pool
  | [] => []
  | step :: rest => (draft.newPool? step).toList ++ (draft.step step).newPools rest

def newBinding? (draft : Draft) : Step → Option (Role × String)
  | .attach role pool =>
    match draft.step? (.attach role pool) with
    | .ok _ => some (role, pool)
    | .error _ => none
  | _ => none

def newBindings (draft : Draft) : List Step → List (Role × String)
  | [] => []
  | step :: rest => (draft.newBinding? step).toList ++ (draft.step step).newBindings rest

inductive FirstLayout : Layout → Prop where
  | empty (cluster : Cluster) : FirstLayout (.empty cluster)
  | colocated (cluster : Cluster) (name : String) : FirstLayout (.colocated cluster name)
  | split {cluster : Cluster} {first second : String} {layout : Layout}
    (built : Layout.split cluster first second = .ok layout) : FirstLayout layout

inductive FirstBindings (layout : Layout) : Bindings → Prop where
  | empty : FirstBindings layout .empty
  | colocated {pool : String} (roles : List Role) (declared : pool ∈ layout.names) :
    FirstBindings layout (.colocated pool roles)
  | split {actorPool criticPool : String} (actor : actorPool ∈ layout.names)
    (critic : criticPool ∈ layout.names) : FirstBindings layout (.split actorPool criticPool)

structure IsFirst (draft : Draft) : Prop where
  layout : FirstLayout draft.layout
  bindings : FirstBindings draft.layout draft.bindings

def Closed (draft : Draft) : Prop :=
  ∀ role name, draft.bindings.get role = some name → name ∈ draft.layout.names

theorem step_cases (draft : Draft) (step : Step) :
    (draft.step step = draft ∧ draft.newPool? step = none ∧ draft.newBinding? step = none) ∨
    (∃ pool, draft.step step = { draft with layout := draft.layout.push pool } ∧
      draft.newPool? step = some pool ∧ draft.newBinding? step = none) ∨
    ∃ role pool, pool ∈ draft.layout.names ∧
      draft.step step = { draft with bindings := draft.bindings.bind role pool } ∧
      draft.newPool? step = none ∧ draft.newBinding? step = some (role, pool) := by
  cases step with
  | addPrimary name rows => exact .inr (.inl ⟨⟨name, rows, .primary⟩, rfl, rfl, rfl⟩)
  | push pool => exact .inr (.inl ⟨pool, rfl, rfl, rfl⟩)
  | addAuxiliary name devicesPerNode nodes =>
    cases added : draft.layout.addAuxiliary name devicesPerNode nodes with
    | error error =>
      have failed : draft.step? (.addAuxiliary name devicesPerNode nodes) = .error error := by
        rw [step?, added]
        rfl
      exact .inl ⟨by rw [Draft.step, failed], by rw [newPool?, failed], rfl⟩
    | ok layout =>
      obtain ⟨-, -, -, rfl⟩ := Layout.addAuxiliary_eq_ok_iff.mp added
      have done : draft.step? (.addAuxiliary name devicesPerNode nodes) =
          .ok { draft with
            layout := draft.layout.push (.uniform name devicesPerNode nodes .auxiliary) } := by
        rw [step?, added]
        rfl
      exact .inr (.inl ⟨_, by rw [Draft.step, done], by rw [newPool?, done], rfl⟩)
  | attach role pool =>
    cases attached : draft.bindings.attach draft.layout role pool with
    | error error =>
      have failed : draft.step? (.attach role pool) = .error error := by
        rw [step?, attached]
        rfl
      exact .inl ⟨by rw [Draft.step, failed], rfl, by rw [newBinding?, failed]⟩
    | ok bindings =>
      obtain ⟨declared, rfl⟩ := Bindings.attach_eq_ok_iff.mp attached
      have done : draft.step? (.attach role pool) =
          .ok { draft with bindings := draft.bindings.bind role pool } := by
        rw [step?, attached]
        rfl
      exact .inr (.inr ⟨role, pool, declared, by rw [Draft.step, done], rfl,
        by rw [newBinding?, done]⟩)

theorem extends_step (draft : Draft) (step : Step) :
    (draft.step step).layout.Extends draft.layout := by
  obtain ⟨same, -⟩ | ⟨pool, pushed, -⟩ | ⟨role, pool, -, bound, -⟩ := draft.step_cases step
  · rw [same]
    exact .refl draft.layout
  · rw [pushed]
    exact .push draft.layout pool
  · rw [bound]
    exact .refl draft.layout

theorem bindings_step (draft : Draft) (step : Step) :
    (draft.step step).bindings = draft.bindings.bindAll (draft.newBinding? step).toList := by
  obtain ⟨same, -, none⟩ | ⟨pool, pushed, -, none⟩ | ⟨role, pool, -, bound, -, new⟩ :=
    draft.step_cases step
  · rw [same, none]
    rfl
  · rw [pushed, none]
    rfl
  · rw [bound, new]
    rfl

theorem pools_step (draft : Draft) (step : Step) :
    (draft.step step).layout.pools = draft.layout.pools ++ (draft.newPool? step).toList := by
  obtain ⟨same, none, -⟩ | ⟨pool, pushed, new, -⟩ | ⟨role, pool, -, bound, none, -⟩ :=
    draft.step_cases step
  · simp [same, none]
  · rw [pushed, new]
    rfl
  · simp [bound, none]

theorem closed_step {draft : Draft} (closed : draft.Closed) (step : Step) :
    (draft.step step).Closed := by
  intro other name hosted
  have grown := draft.extends_step step
  obtain ⟨same, -⟩ | ⟨pool, pushed, -⟩ | ⟨role, pool, declared, bound, -⟩ := draft.step_cases step
  · rw [same] at hosted
    exact grown.mem_names (closed other name hosted)
  · rw [pushed] at hosted
    exact grown.mem_names (closed other name hosted)
  · rw [bound, Bindings.get_bind] at hosted
    split at hosted
    · cases hosted
      exact grown.mem_names declared
    · exact grown.mem_names (closed other name hosted)

theorem run_append (draft : Draft) (steps more : List Step) :
    draft.run (steps ++ more) = (draft.run steps).run more :=
  List.foldl_append

theorem extends_run (draft : Draft) (steps : List Step) :
    (draft.run steps).layout.Extends draft.layout := by
  induction steps generalizing draft with
  | nil => exact .refl draft.layout
  | cons step rest ih => exact (ih (draft.step step)).trans (draft.extends_step step)

theorem bindings_run (draft : Draft) (steps : List Step) :
    (draft.run steps).bindings = draft.bindings.bindAll (draft.newBindings steps) := by
  induction steps generalizing draft with
  | nil => rfl
  | cons step rest ih =>
    rw [run, List.foldl_cons, ← run, ih, bindings_step, newBindings, Bindings.bindAll,
      Bindings.bindAll, Bindings.bindAll, List.foldl_append]

theorem pools_run (draft : Draft) (steps : List Step) :
    (draft.run steps).layout.pools = draft.layout.pools ++ draft.newPools steps := by
  induction steps generalizing draft with
  | nil => exact (List.append_nil _).symm
  | cons step rest ih =>
    rw [run, List.foldl_cons, ← run, ih, pools_step, newPools, List.append_assoc]

theorem closed_run {draft : Draft} (closed : draft.Closed) (steps : List Step) :
    (draft.run steps).Closed := by
  induction steps generalizing draft with
  | nil => exact closed
  | cons step rest ih => exact ih (closed_step closed step)

theorem FirstBindings.declared {layout : Layout} {bindings : Bindings}
    (first : FirstBindings layout bindings) {role : Role} {name : String}
    (bound : bindings.get role = some name) : name ∈ layout.names := by
  cases first with
  | empty =>
    rw [Bindings.get_empty] at bound
    cases bound
  | colocated roles declared =>
    rw [Bindings.get_colocated] at bound
    split at bound
    · cases bound
      exact declared
    · cases bound
  | split actor critic => cases role <;> cases bound <;> assumption

theorem run_keeps_declared_bindings {draft : Draft} (first : draft.IsFirst)
    (steps more : List Step) :
    (draft.run steps).Closed ∧
    (draft.run steps).layout.cluster = draft.layout.cluster ∧
    (draft.run steps).layout.pools <+: (draft.run (steps ++ more)).layout.pools ∧
    (draft.run steps).layout.pools = draft.layout.pools ++ draft.newPools steps ∧
    (∀ role, (draft.run steps).bindings.get role =
      (lastPool (draft.newBindings steps) role).or (draft.bindings.get role)) ∧
    ∀ role name, Plan.freeze (draft.run steps).layout (draft.run steps).bindings ≠
      .error (.unknownPool role name) := by
  have closed : (draft.run steps).Closed :=
    closed_run (fun _ _ bound => first.bindings.declared bound) steps
  refine ⟨closed, (draft.extends_run steps).cluster, ?_, draft.pools_run steps, ?_, ?_⟩
  · rw [run_append]
    exact (extends_run _ more).pools
  · intro role
    rw [bindings_run, Bindings.get_bindAll]
  · exact Plan.freeze_ne_unknownPool closed

def halves : Draft :=
  ⟨⟨⟨3, 6, by decide, by decide, by decide⟩,
    [.uniform "actor" 3 3 .primary, .uniform "critic" 3 3 .primary]⟩, .split "actor" "critic"⟩

theorem halves_isFirst : halves.IsFirst := by
  have built : Layout.split halves.layout.cluster "actor" "critic" = .ok halves.layout := rfl
  exact ⟨.split built, .split (by decide) (by decide)⟩

def lateReward : List Step :=
  [.attach .rewardModel "reward", .addAuxiliary "reward" 0 1, .addAuxiliary "reward" 8 1,
    .attach .rewardModel "reward", .push ⟨"critic", #[], .auxiliary⟩,
    .addPrimary "actor" #[9, 0, 9], .attach .critic "actor", .attach .critic "nowhere"]

theorem run_lateReward : halves.IsFirst ∧ (halves.run lateReward).Closed ∧
    (halves.run lateReward).bindings.get .rewardModel = some "reward" ∧
    (halves.run lateReward).bindings.get .critic = some "actor" ∧
    halves.layout.pools <+: (halves.run lateReward).layout.pools ∧
    (halves.run lateReward).layout.pools = halves.layout.pools ++
      [⟨"reward", #[8], .auxiliary⟩, ⟨"critic", #[], .auxiliary⟩, ⟨"actor", #[9, 0, 9], .primary⟩] ∧
    Plan.freeze (halves.run lateReward).layout (halves.run lateReward).bindings ≠
      .error (.unknownPool .critic "nowhere") := by
  obtain ⟨closed, -, -, grown, bound, known⟩ :=
    run_keeps_declared_bindings halves_isFirst lateReward []
  obtain ⟨-, -, kept, -⟩ := run_keeps_declared_bindings halves_isFirst [] lateReward
  exact ⟨halves_isFirst, closed, (bound .rewardModel).trans (by decide),
    (bound .critic).trans (by decide), kept, grown.trans (by decide), known .critic "nowhere"⟩

end Draft

end DevicePlan
