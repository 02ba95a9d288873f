import DevicePlan.Proofs.Command.Run
import DevicePlan.Proofs.Devices
import DevicePlan.Proofs.Storage

/-!
# Starting a job

`init` checks the policy, then whether the path is taken, and only then writes, so it either leaves
a configuration from which `plan` makes the plan of the starter, or leaves all files as they are
(`init_all_or_nothing`). The starter's own plan binds all roles but the reward model and uses every
device (`Job.exists_starter_plan`).
-/

namespace DevicePlan

theorem Sharing.exists_name_iff {text : String} :
    (∃ sharing : Sharing, text = sharing.name) ↔ text = "colocated" ∨ text = "split" := by
  constructor
  · rintro ⟨sharing, rfl⟩
    cases sharing
    · exact .inl rfl
    · exact .inr rfl
  · rintro (rfl | rfl)
    · exact ⟨.colocated, rfl⟩
    · exact ⟨.split, rfl⟩

theorem Ending.exitCode_failure (error : CommandError) : (failure error).exitCode ≠ 0 := by
  change (1 : UInt8) ≠ 0
  decide

namespace Job

theorem isSome_chosenPool_starter (sharing : Sharing) (role : Role) :
    ((starter sharing).chosenPool role).isSome = true ↔ role ≠ .rewardModel := by
  cases sharing <;> cases role <;> decide

structure IsStarterPlan (sharing : Sharing) (plan : Plan) : Prop where
  placed : (starter sharing).place.outcome = .ok plan
  bound : ∀ role, plan.bindings.isBound role = true ↔ role ≠ .rewardModel
  allocated : plan.LosesNothing

theorem exists_starter_plan (sharing : Sharing) : ∃ plan, IsStarterPlan sharing plan := by
  obtain ⟨plan, placed⟩ := exists_place_iff.mpr (starter_placeable sharing)
  obtain ⟨cluster, policy, overrides, -, -, -, planned⟩ := outcome_place_iff.mp placed
  refine ⟨plan, placed, fun role => ?_, Plan.losesNothing_of_place planned⟩
  rw [Bindings.isBound, get_bindings placed]
  exact isSome_chosenPool_starter sharing role

end Job

namespace FileSystem

variable {State : Type}

section Endings

variable (system : FileSystem State) (state : State) {arguments : List String}
  {path policy : String} {force : Bool}

theorem run_init_unknown (asks : Invocation.ofArguments arguments = .run (.init path policy force))
    (unknown : Sharing.ofName? policy = none) :
    system.run state arguments = (.failure (.unknownPolicy policy), state) := by
  rw [run, asks]
  simp only [runCommand, Command.action, unknown]

theorem run_init_taken {sharing : Sharing}
    (asks : Invocation.ofArguments arguments = .run (.init path policy false))
    (known : Sharing.ofName? policy = some sharing)
    (taken : (system.storage state).isTaken path = true) :
    system.run state arguments = (.failure (.taken path), state) := by
  rw [run, asks]
  simp only [runCommand, Command.action, known, taken]
  rfl

theorem run_init_written {sharing : Sharing} {next : State}
    (asks : Invocation.ofArguments arguments = .run (.init path policy force))
    (known : Sharing.ofName? policy = some sharing)
    (unbarred : (system.storage state).isTaken path = false ∨ force = true)
    (written : system.writeText state path (Job.starter sharing).toToml = .ok next) :
    system.run state arguments = (.success s!"✓ Generated {path}\n", next) := by
  have passes : ((system.storage state).isTaken path && !force) = false := by
    rcases unbarred with free | forced
    · rw [free, Bool.false_and]
    · rw [forced, Bool.not_true, Bool.and_false]
  rw [run, asks]
  simp only [runCommand, Command.action, known, passes, Bool.false_eq_true, if_false, written]

end Endings

section Places

variable {system : FileSystem State} {Place : Type} (places : system.Places Place)

structure Places.Starts (state : State) (place : Place) (path : String) (sharing : Sharing)
    (plan : Plan) : Prop where
  written : places.content? state place = some (.text (Job.starter sharing).toToml)
  starter : Job.IsStarterPlan sharing plan
  loaded : loadPlan (system.storage state) path = .ok plan
  text : ∀ arguments, Invocation.ofArguments arguments = .run (.plan path "text") →
    system.run state arguments = (.success (plan.report ++ "\n"), state)
  json : ∀ arguments, Invocation.ofArguments arguments = .run (.plan path "json") →
    system.run state arguments = (.success (Json.pretty plan.encode ++ "\n"), state)

structure Places.AllOrNothing (state : State) (place : Place) (path policy : String)
    (force : Bool) (ending : Ending) (next : State) : Prop where
  succeeds : ending.exitCode = 0 ↔ (policy = "colocated" ∨ policy = "split") ∧
    (places.content? state place = none ∨ force = true)
  policyFirst : ¬(policy = "colocated" ∨ policy = "split") →
    ending = .failure (.unknownPolicy policy)
  taken : (policy = "colocated" ∨ policy = "split") → places.content? state place ≠ none →
    force = false → ending = .failure (.taken path)
  nothing : ending.exitCode ≠ 0 → next = state ∧ ending.output = ""
  others : ∀ other, other ≠ place → places.content? next other = places.content? state other
  ways : places.place? next = places.place? state
  starts : ending.exitCode = 0 → ∃ sharing plan, policy = sharing.name ∧
    places.Starts next place path sharing plan

variable {places} {state : State} {place : Place} {path policy : String} {force : Bool}

theorem run_plan_of_loaded {arguments : List String} {format text : String} {plan : Plan}
    (loaded : loadPlan (system.storage state) path = .ok plan)
    (rendered : Command.renderPlan plan format = .ok text)
    (asks : Invocation.ofArguments arguments = .run (.plan path format)) :
    system.run state arguments = (.success (text ++ "\n"), state) := by
  rw [run_plan system state asks, Command.planText_eq_ok_iff.mpr ⟨plan, loaded, rendered⟩]
  rfl

theorem Places.exists_starts (sharing : Sharing) (leads : places.place? state path = some place)
    (written : places.content? state place = some (.text (Job.starter sharing).toToml)) :
    ∃ plan, places.Starts state place path sharing plan := by
  obtain ⟨plan, starter⟩ := Job.exists_starter_plan sharing
  have loaded : loadPlan (system.storage state) path = .ok plan :=
    Command.loadPlan_eq_ok_iff.mpr
      ⟨_, Job.load_toToml (places.readText_eq leads written), starter.placed⟩
  exact ⟨plan, written, starter, loaded,
    fun _ => run_plan_of_loaded loaded (Command.renderPlan_text plan),
    fun _ => run_plan_of_loaded loaded (Command.renderPlan_json plan)⟩

theorem Places.allOrNothing_of_failure {error : CommandError}
    (barred : ¬((policy = "colocated" ∨ policy = "split") ∧
      (places.content? state place = none ∨ force = true)))
    (unknown : ¬(policy = "colocated" ∨ policy = "split") → error = .unknownPolicy policy)
    (taken : (policy = "colocated" ∨ policy = "split") → error = .taken path) :
    places.AllOrNothing state place path policy force (.failure error) state where
  succeeds := iff_of_false (Ending.exitCode_failure error) barred
  policyFirst other := by rw [unknown other]
  taken known _ _ := by rw [taken known]
  nothing _ := ⟨rfl, rfl⟩
  others _ _ := rfl
  ways := rfl
  starts succeeded := absurd succeeded (Ending.exitCode_failure error)

theorem Places.allOrNothing_of_success {sharing : Sharing} {next : State} (output : String)
    (known : policy = sharing.name)
    (unbarred : places.content? state place = none ∨ force = true)
    (leads : places.place? next path = some place)
    (written : places.content? next place = some (.text (Job.starter sharing).toToml))
    (others : ∀ other, other ≠ place → places.content? next other = places.content? state other)
    (ways : places.place? next = places.place? state) :
    places.AllOrNothing state place path policy force (.success output) next where
  succeeds := iff_of_true rfl ⟨Sharing.exists_name_iff.mp ⟨sharing, known⟩, unbarred⟩
  policyFirst other := absurd (Sharing.exists_name_iff.mp ⟨sharing, known⟩) other
  taken _ present unforced := by
    rcases unbarred with free | forced
    · exact absurd free present
    · rw [unforced] at forced
      cases forced
  nothing failed := absurd rfl failed
  others := others
  ways := ways
  starts _ := by
    obtain ⟨plan, starts⟩ := places.exists_starts sharing leads written
    exact ⟨sharing, plan, known, starts⟩

theorem init_all_or_nothing {arguments : List String}
    (asks : Invocation.ofArguments arguments = .run (.init path policy force))
    (leads : places.place? state path = some place) :
    places.AllOrNothing state place path policy force (system.run state arguments).1
      (system.run state arguments).2 := by
  cases known : Sharing.ofName? policy with
  | none =>
    have unknown : ¬(policy = "colocated" ∨ policy = "split") := by
      intro named
      obtain ⟨sharing, rfl⟩ := Sharing.exists_name_iff.mpr named
      rw [Sharing.ofName?_eq_some_iff.mpr rfl] at known
      cases known
    rw [run_init_unknown system state asks known]
    exact places.allOrNothing_of_failure (fun both => unknown both.1) (fun _ => rfl)
      (fun named => absurd named unknown)
  | some sharing =>
    -- Only now is the path looked at, so a bad policy is reported whatever is there.
    have named := Sharing.ofName?_eq_some_iff.mp known
    have isTaken := places.isTaken_eq leads
    by_cases unbarred : places.content? state place = none ∨ force = true
    · obtain ⟨next, wrote, ways, written, others⟩ :=
        places.exists_write leads (Job.starter sharing).toToml
      have passes : (system.storage state).isTaken path = false ∨ force = true := by
        rcases unbarred with free | forced
        · rw [isTaken, free]
          exact .inl rfl
        · exact .inr forced
      rw [run_init_written system state asks known passes wrote]
      have stillLeads : places.place? next path = some place := by rw [ways, leads]
      exact places.allOrNothing_of_success _ named unbarred stillLeads written others ways
    · obtain ⟨present, unforced⟩ := not_or.mp unbarred
      obtain rfl : force = false := by simpa using unforced
      have taken : (system.storage state).isTaken path = true := by
        rw [isTaken]
        exact Option.isSome_iff_ne_none.mpr present
      rw [run_init_taken system state asks known taken]
      exact places.allOrNothing_of_failure (fun both => unbarred both.2)
        (fun other => absurd (Sharing.exists_name_iff.mp ⟨sharing, named⟩) other) (fun _ => rfl)

end Places

def notes : Folder := ⟨[(["notes"], .text "keep me"), (["data", "log"], .bytes)]⟩

theorem place?_notes : Folder.places.place? notes "./notes" = some ["notes"] := by
  have short : "./notes".utf8ByteSize = 7 := by rfl
  have shortName : "notes".utf8ByteSize = 5 := by rfl
  change notes.place? "./notes" = some ["notes"]
  apply Folder.place?_eq_some_iff.mpr
  simp [notes, Folder.locate, Folder.pathParts, Folder.follow, Folder.content?, short, shortName]

theorem init_all_or_nothing_notes :
    (notes.run (Command.init "./notes" "split" false).arguments).1 =
      .failure (.taken "./notes") ∧
    (notes.run (Command.init "./notes" "split" false).arguments).2 = notes ∧
    (notes.run (Command.init "./notes" "split" true).arguments).1.exitCode = 0 ∧
    let next := (notes.run (Command.init "./notes" "split" true).arguments).2
    Folder.places.content? next ["notes"] = some (.text (Job.starter .split).toToml) ∧
      Folder.places.content? next ["data", "log"] = some .bytes ∧
      (next.run (Command.plan "./notes" "json").arguments).1.exitCode = 0 := by
  have asks (force : Bool) := Invocation.ofArguments_arguments (.init "./notes" "split" force)
  have unforced := init_all_or_nothing (asks false) place?_notes
  have forced := init_all_or_nothing (asks true) place?_notes
  have present : notes.content? ["notes"] ≠ none := by decide
  have refused := unforced.taken (.inr rfl) present rfl
  have kept := (unforced.nothing (by rw [refused]; exact Ending.exitCode_failure _)).1
  have succeeded := forced.succeeds.mpr ⟨.inr rfl, .inr rfl⟩
  obtain ⟨sharing, plan, named, starts⟩ := forced.starts succeeded
  obtain rfl : sharing = .split := by
    cases sharing with
    | colocated => exact absurd named (by decide)
    | split => rfl
  have planned := starts.json _ (Invocation.ofArguments_arguments (.plan "./notes" "json"))
  refine ⟨refused, kept, succeeded, starts.written, ?_, ?_⟩
  · exact (forced.others ["data", "log"] (by decide)).trans rfl
  · unfold Folder.run
    rw [planned]
    rfl

end FileSystem

end DevicePlan
