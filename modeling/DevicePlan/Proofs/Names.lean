import DevicePlan.Proofs.Command.Run
import DevicePlan.Proofs.Document.Member
import DevicePlan.Proofs.Job.Fault
import Mathlib.Tactic.TFAE

namespace DevicePlan

def snakeCase (identifier : String) : String :=
  match identifier.toList with
  | [] => ""
  | first :: rest => String.ofList
    (first.toLower :: rest.flatMap fun c => if c.isUpper then ['_', c.toLower] else [c.toLower])

/-- Reading a text, decoding it, naming a value, deriving its name from an identifier and encoding
it go by the same table. -/
structure SameNames {α : Type} (all : List α) (reads : String → α → Prop)
    (decode : Format → Decoder α) (encode : α → Value) (name identifier : α → String) : Prop where
  known : ∀ text value,
    [reads text value, decode .json (.string text) = .ok value,
      decode .toml (.string text) = .ok value, name value = text,
      snakeCase (identifier value) = text, encode value = .string text].TFAE
  derived : ∀ format,
    decode format = .choice format (all.map fun value => (snakeCase (identifier value), value))
  unknown : ∀ text, (∀ value, name value ≠ text) → (∀ value, ¬reads text value) ∧
    ∀ format, decode format (.string text) = .error (.unknownName text (all.map name))

theorem SameNames.of_table {α : Type} {all : List α} {reads : String → α → Prop}
    {decode : Format → Decoder α} {encode : α → Value} {name identifier : α → String}
    (complete : ∀ value, value ∈ all) (distinct : (all.map name).Nodup)
    (read : ∀ text value, reads text value ↔ text = name value)
    (decoded : ∀ format,
      decode format = .choice format (all.map fun value => (name value, value)))
    (encoded : ∀ value, encode value = .string (name value))
    (derived : ∀ value, snakeCase (identifier value) = name value) :
    SameNames all reads decode encode name identifier := by
  have keys : (all.map fun value => (name value, value)).map Prod.fst = all.map name := by simp
  have decodes (format : Format) (text : String) (value : α) :
      decode format (.string text) = .ok value ↔ name value = text := by
    rw [decoded, Decoder.choice, Decoder.named_eq_ok_iff,
      lookup_eq_some_iff_mem (by rwa [keys])]
    simp [complete]
  refine ⟨fun text value => ?_, fun format => ?_, fun text other => ⟨fun value called => ?_, ?_⟩⟩
  · tfae_have 1 ↔ 4 := (read text value).trans eq_comm
    tfae_have 2 ↔ 4 := decodes .json text value
    tfae_have 3 ↔ 4 := decodes .toml text value
    tfae_have 5 ↔ 4 := by rw [derived]
    tfae_have 6 ↔ 4 := by rw [encoded, Value.string.injEq]
    tfae_finish
  · simp only [decoded, derived]
  · exact other value ((read text value).mp called).symm
  · intro format
    have absent : text ∉ (all.map fun value => (name value, value)).map Prod.fst := by
      simpa [keys] using fun value _ => other value
    rw [decoded, Decoder.choice, Decoder.named, lookup_eq_none_iff_notMem.mpr absent, keys]

namespace Role

def identifier : Role → String
  | actorRollout => "ActorRollout"
  | critic => "Critic"
  | rewardModel => "RewardModel"
  | reference => "Reference"

theorem snakeCase_identifier (role : Role) : snakeCase role.identifier = role.name := by
  cases role <;> rfl

theorem ofName_eq_error {text : String} (other : ∀ role : Role, role.name ≠ text) :
    ofName text = .error (.unknownRoleName text) := by
  have unknown : ofName? text = none := by
    rw [Option.eq_none_iff_forall_ne_some]
    intro role found
    exact other role (name_of_ofName? found)
  rw [ofName, unknown]

theorem sameNames : SameNames all (fun text role => ofName text = .ok role) decode encode name
    identifier :=
  .of_table mem_all (by decide) (fun _ _ => ofName_eq_ok_iff) (fun _ => rfl) (fun _ => rfl)
    snakeCase_identifier

end Role

theorem Job.unknownRoleName_of_place {job : Job} {text : String}
    (failed : job.place.outcome = .error (.unknownRoleName text)) (role : Role) :
    text ≠ role.name := by
  generalize named : PlanError.unknownRoleName text = error at failed
  rcases tells_or_oversized failed with tells | ⟨field, value, -, -, -, same⟩
  · generalize error.message = message at tells
    cases tells with
    | noRole key other =>
      cases named
      exact other role
    | @notPositive field => cases field <;> cases named
    | _ => cases named
  · rw [same] at named
    cases field <;> cases named

theorem Bindings.member?_encode_eq_some_iff {bindings : Bindings} {key : String} {value : Value} :
    bindings.encode.member? key = some value ↔
      ∃ role pool, bindings.get role = some pool ∧ role.name = key ∧ .string pool = value := by
  constructor
  · intro found
    obtain ⟨before, after, members, -⟩ := List.lookup_eq_some_iff.mp found
    have member : (key, value) ∈ before ++ (key, value) :: after := by simp
    rw [← members] at member
    obtain ⟨⟨role, pool⟩, listed, same⟩ := List.mem_map.mp member
    obtain ⟨named, written⟩ := Prod.mk.inj same
    exact ⟨role, pool, mem_toList.mp listed, named, written⟩
  · rintro ⟨role, pool, bound, rfl, rfl⟩
    rw [member?_encode, bound]
    rfl

structure Role.IsCalled (role : Role) (text : String) : Prop where
  resolved : ∀ storage config, Command.resolveText storage config text = do
    let plan ← loadPlan storage config
    let pool ← (plan.resolve role).mapError .plan
    return Command.renderRole role pool
  accepted : ∀ job : Job, job.place.outcome ≠ .error (.unknownRoleName text)
  overridden : ∀ (job : Job) (plan : Plan) (pool : String), job.place.outcome = .ok plan →
    job.placement.overrides.get? text = some pool → plan.bindings.get role = some pool

theorem Role.isCalled_name (role : Role) : role.IsCalled role.name where
  resolved storage config := by
    rw [Command.resolveText, ofName_eq_ok_iff.mpr rfl]
    rfl
  accepted job failed := Job.unknownRoleName_of_place failed role rfl
  overridden job plan pool placed configured := by
    rw [Job.get_bindings placed, Job.chosenPool, configured, Option.some_or]

namespace Sharing

def identifier : Sharing → String
  | colocated => "Colocated"
  | split => "Split"

theorem snakeCase_identifier (sharing : Sharing) :
    snakeCase sharing.identifier = sharing.name := by
  cases sharing <;> rfl

theorem sameNames : SameNames all (fun text sharing => ofName? text = some sharing) decode encode
    name identifier :=
  .of_table mem_all (by decide) (fun _ _ => ofName?_eq_some_iff) (fun _ => rfl) (fun _ => rfl)
    snakeCase_identifier

end Sharing

theorem names_agree :
    SameNames Role.all (fun text role => Role.ofName text = .ok role) Role.decode Role.encode
      Role.name Role.identifier ∧
    (∀ text, (∀ role : Role, role.name ≠ text) →
      Role.ofName text = .error (.unknownRoleName text)) ∧
    (∀ (plan : Plan) (key : String) (value : Value),
      (plan.encode.member? "mapping").bind (Value.member? · key) = some value ↔
        ∃ role pool, plan.bindings.get role = some pool ∧ role.name = key ∧ .string pool = value) ∧
    (∀ role : Role, role.IsCalled role.name) ∧
    SameNames Sharing.all (fun text sharing => Sharing.ofName? text = some sharing) Sharing.decode
      Sharing.encode Sharing.name Sharing.identifier ∧
    ∀ text, (∀ sharing : Sharing, sharing.name ≠ text) → ∀ storage path force,
      (Command.init path text force).action storage = .error (.unknownPolicy text) := by
  refine ⟨Role.sameNames, fun text => Role.ofName_eq_error,
    fun plan key value => Bindings.member?_encode_eq_some_iff, Role.isCalled_name,
    Sharing.sameNames, fun text other storage path force => ?_⟩
  have unknown : Sharing.ofName? text = none :=
    Option.eq_none_iff_forall_ne_some.mpr (Sharing.sameNames.unknown text other).1
  rw [Command.action, unknown]

theorem names_agree_mistyped : Role.ofName "reward_model" = .ok .rewardModel ∧
    Role.decode .json (.string "reward_model") = .ok .rewardModel ∧
    Role.ofName "Reference" = .error (.unknownRoleName "Reference") ∧
    Role.ofName "actor" = .error (.unknownRoleName "actor") ∧
    (Value.member? (Plan.encode ⟨Plan.fullNodes.cluster, Plan.fullNodes.pools,
      .split "first" "second"⟩) "mapping").bind (Value.member? · "critic") =
        some (.string "second") ∧
    Sharing.ofName? "split" = some .split ∧ Sharing.ofName? "split " ≠ some .split ∧
    (Command.init "a" "split " true).action ⟨fun _ => .ok "", fun _ => true⟩ =
      .error (.unknownPolicy "split ") := by
  obtain ⟨roles, others, mapping, -, sharings, unknown⟩ := names_agree
  have rewardModel := roles.known "reward_model" .rewardModel
  have noRole : ∀ role : Role, role.name ≠ "Reference" ∧ role.name ≠ "actor" := by
    intro role
    cases role <;> decide
  have noSharing : ∀ sharing : Sharing, sharing.name ≠ "split " := by
    intro sharing
    cases sharing <;> decide
  exact ⟨(rewardModel.out 3 0).mp rfl, (rewardModel.out 3 1).mp rfl,
    others _ fun role => (noRole role).1, others _ fun role => (noRole role).2,
    (mapping _ _ _).mpr ⟨.critic, "second", rfl, rfl, rfl⟩,
    ((sharings.known "split" .split).out 3 0).mp rfl, (sharings.unknown _ noSharing).1 _,
    unknown _ noSharing _ _ _⟩

end DevicePlan
