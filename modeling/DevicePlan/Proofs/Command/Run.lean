import DevicePlan.Command.Run
import DevicePlan.Proofs.Command.Arguments
import DevicePlan.Proofs.Job.Placement
import DevicePlan.Proofs.Job.Toml
import DevicePlan.Proofs.Plan.Codec

namespace DevicePlan

namespace Ending

def ofText (outcome : Except CommandError String) : Ending :=
  match outcome with
  | .ok text => .success (text ++ "\n")
  | .error error => .failure error

variable {outcome : Except CommandError String}

theorem exitCode_ofText : (ofText outcome).exitCode = 0 ↔ ∃ text, outcome = .ok text := by
  cases outcome <;> simp [ofText, exitCode]

theorem output_ofText_of_failure (failed : (ofText outcome).exitCode ≠ 0) :
    (ofText outcome).output = "" := by
  cases outcome with
  | error error => rfl
  | ok text => exact absurd rfl failed

end Ending

namespace Command

variable {storage : Storage} {config : String}

theorem loadPlan_eq_ok_iff {plan : Plan} : loadPlan storage config = .ok plan ↔
    ∃ job, Job.load storage config = .ok job ∧ job.place.outcome = .ok plan := by
  unfold loadPlan
  cases Job.load storage config with
  | error error => simp
  | ok job => cases placed : job.place.outcome <;> simp [placed]

theorem loadPlan_consistent {plan : Plan} (loaded : loadPlan storage config = .ok plan) :
    plan.Consistent := by
  obtain ⟨job, -, placed⟩ := loadPlan_eq_ok_iff.mp loaded
  exact Job.consistent_of_placed placed

theorem renderPlan_text (plan : Plan) : renderPlan plan "text" = .ok plan.report := rfl

theorem renderPlan_json (plan : Plan) : renderPlan plan "json" = .ok (Json.pretty plan.encode) :=
  rfl

theorem renderPlan_other (plan : Plan) {format : String} (noText : format ≠ "text")
    (noJson : format ≠ "json") : renderPlan plan format = .error (.unknownFormat format) := by
  unfold renderPlan
  split
  · exact absurd rfl noJson
  · exact absurd rfl noText
  · rfl

theorem planText_eq_ok_iff {format text : String} : planText storage config format = .ok text ↔
    ∃ plan, loadPlan storage config = .ok plan ∧ renderPlan plan format = .ok text := by
  rw [planText, bind_eq_ok]

theorem exists_planText_iff {format : String} {render : Plan → String}
    (renders : ∀ plan, renderPlan plan format = .ok (render plan)) :
    (∃ text, planText storage config format = .ok text) ↔
      ∃ plan, loadPlan storage config = .ok plan := by
  simp only [planText_eq_ok_iff, renders, Except.ok.injEq]
  constructor
  · rintro ⟨text, placed, loaded, -⟩
    exact ⟨placed, loaded⟩
  · rintro ⟨placed, loaded⟩
    exact ⟨render placed, placed, loaded, rfl⟩

theorem planText_error {error : CommandError} (format : String)
    (failed : planText storage config "text" = .error error) :
    planText storage config format = .error error := by
  unfold planText at failed ⊢
  cases loaded : loadPlan storage config with
  | error loadError =>
    rw [loaded] at failed
    exact failed
  | ok plan =>
    rw [loaded] at failed
    cases failed

theorem resolveText_eq_ok_iff {name text : String} : resolveText storage config name = .ok text ↔
    ∃ role, name = role.name ∧ ∃ plan, loadPlan storage config = .ok plan ∧
      ∃ pool ∈ plan.pools, plan.bindings.get role = some pool.name ∧
        renderRole role pool = text := by
  simp only [resolveText, bind_eq_ok, mapError_eq_ok, Role.ofName_eq_ok_iff, pure, Except.pure,
    Except.ok.injEq]
  constructor
  · rintro ⟨role, named, plan, loaded, pool, resolved, printed⟩
    obtain ⟨member, bound⟩ := (loadPlan_consistent loaded).resolve_eq_ok_iff.mp resolved
    exact ⟨role, named, plan, loaded, pool, member, bound, printed⟩
  · rintro ⟨role, named, plan, loaded, pool, member, bound, printed⟩
    have resolved := (loadPlan_consistent loaded).resolve_eq_ok_iff.mpr ⟨member, bound⟩
    exact ⟨role, named, plan, loaded, pool, resolved, printed⟩

theorem resolveText_unknown {name : String} (unknown : ∀ role : Role, name ≠ role.name) :
    resolveText storage config name = .error (.plan (.unknownRoleName name)) := by
  have noRole : Role.ofName name = .error (.unknownRoleName name) := by
    cases read : Role.ofName name with
    | ok role => exact absurd (Role.ofName_eq_ok_iff.mp read) (unknown role)
    | error error =>
      unfold Role.ofName at read
      split at read
      · cases read
      · exact read.symm
  rw [resolveText, noRole]
  rfl

end Command

namespace FileSystem

variable {State : Type} (system : FileSystem State) (state : State)

theorem run_plan {arguments : List String} {config format : String}
    (asks : Invocation.ofArguments arguments = .run (.plan config format)) :
    system.run state arguments =
      (.ofText (Command.planText (system.storage state) config format), state) := by
  rw [run, asks]
  simp only [runCommand, Command.action]
  cases Command.planText (system.storage state) config format <;> rfl

theorem run_resolve {arguments : List String} {config name : String}
    (asks : Invocation.ofArguments arguments = .run (.resolve config name)) :
    system.run state arguments =
      (.ofText (Command.resolveText (system.storage state) config name), state) := by
  rw [run, asks]
  simp only [runCommand, Command.action]
  cases Command.resolveText (system.storage state) config name <;> rfl

/-- The line says where the plan in a JSON text places the role: the pool that its `mapping` has for
the role, and the rows of the one pool of that name. -/
def ShowsPlace (json role line : String) : Prop :=
  ∃ (document pool : Value) (pools : List Value) (name : String) (counts : List Nat),
    Json.read? json = some document ∧
    (document.member? "mapping").bind (Value.member? · role) = some (.string name) ∧
    document.member? "pools" = some (.array pools) ∧
    (∀ other, other ∈ pools ∧ other.member? "name" = some (.string name) ↔ other = pool) ∧
    pool.member? "per_node_device_counts" =
      some (.array (counts.map fun count : Nat => .integer count)) ∧
    line = role ++ " → " ++ name ++ " [" ++ ", ".intercalate (counts.map toString) ++ "]\n"

theorem showsPlace {plan : Plan} (consistent : plan.Consistent) {role : Role} {pool : Pool}
    (member : pool ∈ plan.pools) (bound : plan.bindings.get role = some pool.name) :
    ShowsPlace (Json.pretty plan.encode ++ "\n") role.name
      (Command.renderRole role pool ++ "\n") := by
  refine ⟨plan.encode, pool.encode, plan.pools.map Pool.encode, pool.name,
    pool.rows.toList.map UInt32.toNat, plan.read?_pretty, ?_, rfl, ?_, pool.counts_encode, ?_⟩
  · have mapped : plan.encode.member? "mapping" = some plan.bindings.encode := rfl
    rw [mapped, Option.bind_some, Bindings.member?_encode, bound]
    rfl
  · intro other
    constructor
    · rintro ⟨listed, named⟩
      obtain ⟨pool', member', rfl⟩ := List.mem_map.mp listed
      have sameName : pool'.name = pool.name := by
        simpa [Pool.name_encode] using named
      rw [List.inj_on_of_nodup_map consistent.distinct member' member sameName]
    · rintro rfl
      exact ⟨List.mem_map_of_mem member, pool.name_encode⟩
  · apply String.toList_inj.mp
    simp [Command.renderRole, Pool.describeRows, Function.comp_def, toString]

structure Agree (storage : Storage) (config format name : String)
    (resolve json text plan : Ending) : Prop where
  resolves : resolve.exitCode = 0 ↔ ∃ role : Role, name = role.name ∧ text.exitCode = 0 ∧
    ∃ placed, loadPlan storage config = .ok placed ∧ placed.bindings.isBound role = true
  shows : resolve.exitCode = 0 → ShowsPlace json.output name resolve.output
  formats : text.exitCode = 0 ↔ json.exitCode = 0
  otherFormat : format ≠ "text" → format ≠ "json" → plan.exitCode ≠ 0
  unknownRole : (∀ role : Role, name ≠ role.name) →
    resolve = .failure (.plan (.unknownRoleName name))
  configFirst : text.exitCode ≠ 0 → plan = text

theorem agree (storage : Storage) (config format name : String) :
    Agree storage config format name (.ofText (Command.resolveText storage config name))
      (.ofText (Command.planText storage config "json"))
      (.ofText (Command.planText storage config "text"))
      (.ofText (Command.planText storage config format)) where
  resolves := by
    simp only [Ending.exitCode_ofText, Command.exists_planText_iff Command.renderPlan_text,
      Command.resolveText_eq_ok_iff]
    constructor
    · rintro ⟨text, role, named, plan, loaded, pool, member, bound, printed⟩
      refine ⟨role, named, ⟨plan, loaded⟩, plan, loaded, ?_⟩
      rw [Bindings.isBound, bound]
      rfl
    · rintro ⟨role, named, -, plan, loaded, isBound⟩
      obtain ⟨poolName, bound⟩ := Option.isSome_iff_exists.mp isBound
      obtain ⟨pool, member, rfl, -⟩ := (Command.loadPlan_consistent loaded).exists_pool bound
      exact ⟨_, role, named, plan, loaded, pool, member, bound, rfl⟩
  shows := by
    intro resolved
    obtain ⟨text, printed⟩ := Ending.exitCode_ofText.mp resolved
    obtain ⟨role, rfl, plan, loaded, pool, member, bound, rfl⟩ :=
      Command.resolveText_eq_ok_iff.mp printed
    have json : Command.planText storage config "json" = .ok (Json.pretty plan.encode) :=
      Command.planText_eq_ok_iff.mpr ⟨plan, loaded, rfl⟩
    rw [printed, json]
    exact showsPlace (Command.loadPlan_consistent loaded) member bound
  formats := by
    rw [Ending.exitCode_ofText, Ending.exitCode_ofText,
      Command.exists_planText_iff Command.renderPlan_text,
      Command.exists_planText_iff Command.renderPlan_json]
  otherFormat := by
    intro noText noJson printed
    obtain ⟨text, printed⟩ := Ending.exitCode_ofText.mp printed
    obtain ⟨plan, -, rendered⟩ := Command.planText_eq_ok_iff.mp printed
    rw [Command.renderPlan_other plan noText noJson] at rendered
    cases rendered
  unknownRole := by
    intro unknown
    rw [Command.resolveText_unknown unknown]
    rfl
  configFirst := by
    intro failed
    cases text : Command.planText storage config "text" with
    | ok text' =>
      rw [text] at failed
      exact absurd rfl failed
    | error error => rw [Command.planText_error format text]

variable {config format name : String} {resolve json text plan : List String}

theorem commands_agree
    (asksResolve : Invocation.ofArguments resolve = .run (.resolve config name))
    (asksJson : Invocation.ofArguments json = .run (.plan config "json"))
    (asksText : Invocation.ofArguments text = .run (.plan config "text"))
    (asksPlan : Invocation.ofArguments plan = .run (.plan config format)) :
    Agree (system.storage state) config format name (system.run state resolve).1
      (system.run state json).1 (system.run state text).1 (system.run state plan).1 ∧
    ∀ arguments ∈ [resolve, plan], (system.run state arguments).2 = state ∧
      ((system.run state arguments).1.exitCode ≠ 0 →
        (system.run state arguments).1.output = "") := by
  have resolves := run_resolve system state asksResolve
  have plans := run_plan system state asksPlan
  constructor
  · rw [resolves, plans, run_plan system state asksJson, run_plan system state asksText]
    exact agree (system.storage state) config format name
  · simp only [List.forall_mem_cons, resolves, plans, true_and]
    exact ⟨Ending.output_ofText_of_failure, Ending.output_ofText_of_failure, by simp⟩

theorem commands_agree_starter :
    let folder : Folder := ⟨[(["gridpool.toml"], .text (Job.starter .split).toToml)]⟩
    let resolve := Command.resolve "gridpool.toml" "critic"
    let plan (format : String) := Command.plan "gridpool.toml" format
    Agree folder.storage "gridpool.toml" "yaml" "critic" (folder.run resolve.arguments).1
        (folder.run (plan "json").arguments).1 (folder.run (plan "text").arguments).1
        (folder.run (plan "yaml").arguments).1 ∧
      (folder.run resolve.arguments).1.exitCode = 0 := by
  intro folder resolve plan
  obtain ⟨agree, -⟩ := commands_agree Folder.fileSystem folder
    (Invocation.ofArguments_arguments resolve) (Invocation.ofArguments_arguments (plan "json"))
    (Invocation.ofArguments_arguments (plan "text"))
    (Invocation.ofArguments_arguments (plan "yaml"))
  have text : folder.storage.readText "gridpool.toml" = .ok (Job.starter .split).toToml := by
    have short : "gridpool.toml".utf8ByteSize = 13 := by rfl
    simp [folder, Folder.storage, Folder.readText, Folder.locate, Folder.pathParts, Folder.follow,
      Folder.content?, short]
  have loads := Job.load_toToml text
  obtain ⟨placed, outcome⟩ := Job.exists_place_iff.mpr (Job.starter_placeable .split)
  have loaded := Command.loadPlan_eq_ok_iff.mpr ⟨_, loads, outcome⟩
  have bound : placed.bindings.isBound .critic = true := by
    rw [Bindings.isBound, Job.get_bindings outcome]
    rfl
  have printed : (folder.run (plan "text").arguments).1.exitCode = 0 := by
    rw [Folder.run, run_plan _ _ (Invocation.ofArguments_arguments (plan "text")),
      Ending.exitCode_ofText, Command.exists_planText_iff Command.renderPlan_text]
    exact ⟨placed, loaded⟩
  exact ⟨agree, agree.resolves.mpr ⟨.critic, rfl, printed, placed, loaded, bound⟩⟩

end FileSystem

end DevicePlan
