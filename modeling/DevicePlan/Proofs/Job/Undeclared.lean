import DevicePlan.Job.Toml
import DevicePlan.Proofs.Document.Undeclared

namespace DevicePlan.Job

def declaredIn : List (String × List String) :=
  [("trainer", ["nnodes", "n_gpus_per_node"]),
    ("placement",
      ["policy", "global_pool", "actor_pool", "critic_pool", "reward_pool", "overrides"]),
    ("reward_model", ["enable", "enable_resource_pool", "n_gpus_per_node", "nnodes"])]

/-- The configuration has one more member, itself or in a record that is written as a table, under
a key that is not declared there. -/
inductive AddsUndeclared : List (String × Value) → List (String × Value) → Prop where
  | outside {members larger : List (String × Value)}
    (adds : AddsMember (declaredIn.map Prod.fst) members larger) : AddsUndeclared members larger
  | inside {record : String} {declared : List String} {inner larger : List (String × Value)}
    (listed : (record, declared) ∈ declaredIn) (adds : AddsMember declared inner larger)
    (front back : List (String × Value)) :
    AddsUndeclared (front ++ (record, .table inner) :: back)
      (front ++ (record, .table larger) :: back)

section Records

open Fields

variable {members larger : List (String × Value)}

theorem Trainer.decode_of_addsMember (format : Format)
    (adds : AddsMember ["nnodes", "n_gpus_per_node"] members larger) :
    decode format (.table larger) = decode format (.table members) := by
  have respects : fields.Respects fun _ => Eq :=
    ((respects_required fun _ _ => congrArg _).map mk).seq (respects_required fun _ _ => congrArg _)
  exact ofMembers_of_addsMember respects adds

theorem Placement.decode_of_addsMember (format : Format)
    (adds : AddsMember
      ["policy", "global_pool", "actor_pool", "critic_pool", "reward_pool", "overrides"]
      members larger) : decode format (.table larger) = decode format (.table members) := by
  have respects : (fields format).Respects fun _ => Eq :=
    ((((((respects_defaulted (fun _ _ => congrArg _) _).map mk).seq
      (respects_optional fun _ _ => congrArg _)).seq
      (respects_optional fun _ _ => congrArg _)).seq
      (respects_optional fun _ _ => congrArg _)).seq
      (respects_optional fun _ _ => congrArg _)).seq
      (respects_defaulted (fun _ _ => congrArg _) _)
  exact ofMembers_of_addsMember respects adds

theorem RewardModel.decode_of_addsMember (format : Format)
    (adds : AddsMember ["enable", "enable_resource_pool", "n_gpus_per_node", "nnodes"]
      members larger) : decode format (.table larger) = decode format (.table members) := by
  have respects : fields.Respects fun _ => Eq :=
    ((((respects_defaulted (fun _ _ => congrArg _) _).map mk).seq
      (respects_defaulted (fun _ _ => congrArg _) _)).seq
      (respects_defaulted (fun _ _ => congrArg _) _)).seq
      (respects_defaulted (fun _ _ => congrArg _) _)
  exact ofMembers_of_addsMember respects adds

structure SameRecord (format : Format) (key : String) (value image : Value) : Prop where
  trainer : key = "trainer" → Trainer.decode format value = Trainer.decode format image
  placement : key = "placement" → Placement.decode format value = Placement.decode format image
  rewardModel : key = "reward_model" → Decoder.nullable (RewardModel.decode format) value =
    Decoder.nullable (RewardModel.decode format) image

theorem sameRecord_refl (format : Format) (key : String) (value : Value) :
    SameRecord format key value value :=
  ⟨fun _ => rfl, fun _ => rfl, fun _ => rfl⟩

theorem sameRecord_of_addsMember (format : Format) {record : String} {declared : List String}
    (listed : (record, declared) ∈ declaredIn) (adds : AddsMember declared members larger) :
    SameRecord format record (.table larger) (.table members) := by
  simp only [declaredIn, List.mem_cons, Prod.mk.injEq, List.not_mem_nil, or_false] at listed
  rcases listed with ⟨rfl, rfl⟩ | ⟨rfl, rfl⟩ | ⟨rfl, rfl⟩
  · exact ⟨fun _ => Trainer.decode_of_addsMember format adds, nofun, nofun⟩
  · exact ⟨nofun, fun _ => Placement.decode_of_addsMember format adds, nofun⟩
  · exact ⟨nofun, nofun, fun _ =>
      congrArg (Except.map some) (RewardModel.decode_of_addsMember format adds)⟩

end Records

open Fields in
theorem respects_fields (format : Format) {same : String → Value → Value → Prop}
    (each : ∀ key value image, same key value image → SameRecord format key value image) :
    (fields format).Respects same :=
  (((respects_required fun _ _ alike => (each _ _ _ alike).trainer rfl).map mk).seq
    (respects_defaulted (fun _ _ alike => (each _ _ _ alike).placement rfl) _)).seq
    (respects_optional fun _ _ alike => (each _ _ _ alike).rewardModel rfl)

theorem decode_of_addsUndeclared (format : Format) {members larger : List (String × Value)}
    (adds : AddsUndeclared members larger) :
    decode format (.table larger) = decode format (.table members) := by
  cases adds with
  | outside adds =>
    refine Fields.ofMembers_of_addsMember (respects_fields format ?_) adds
    rintro key value image rfl
    exact sameRecord_refl format key value
  | inside listed adds front back =>
    exact Fields.ofMembers_of_same (respects_fields format fun _ _ _ => id)
      (sameRecord_refl format) front back (sameRecord_of_addsMember format listed adds)

theorem AddsUndeclared.sorted {members larger : List (String × Value)}
    (adds : AddsUndeclared members larger) (json : (Value.table larger).IsJson) :
    AddsUndeclared (Value.sortedMembers [] members) (Value.sortedMembers [] larger) := by
  cases adds with
  | outside adds => exact .outside (adds.sorted json.distinct)
  | @inside record declared inner larger listed adds front back =>
    have distinct := json.distinct
    have deeper : (Value.table larger).IsJson := by
      cases json with
      | table _ each => exact each (record, .table larger) (by simp)
    rw [List.map_append, List.map_cons, List.nodup_middle, ← List.map_append] at distinct
    obtain ⟨before, after, -, placed⟩ := Value.exists_sortedMembers_eq distinct
    rw [placed, placed]
    exact .inside listed (adds.sorted deeper.distinct) before after

theorem ofJson_of_addsUndeclared {members larger : List (String × Value)}
    (adds : AddsUndeclared members larger) (json : (Value.table larger).IsJson) :
    ofJson (.table larger) = ofJson (.table members) :=
  decode_of_addsUndeclared .json (adds.sorted json)

end DevicePlan.Job
