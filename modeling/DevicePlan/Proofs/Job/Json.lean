import DevicePlan.Proofs.Document.Member
import DevicePlan.Proofs.Job.Toml
import Mathlib.Data.Set.List

namespace DevicePlan

def Value.at? (value : Value) : List String → Option Value
  | [] => some value
  | key :: path =>
    match value with
    | .table members => (members.lookup key).bind fun value => value.at? path
    | _ => none

namespace Job

/-! ## Which objects are configurations -/

def NamesSharing (value : Value) (sharing : Sharing) : Prop :=
  value = .string sharing.name ∨ value = .table [(sharing.name, .null)]

structure Trainer.ReadFrom (members : List (String × Value)) (trainer : Trainer) : Prop where
  nodes : Given (Spells .count) (members.lookup "nnodes") trainer.nodes
  devicesPerNode : Given (Spells .count) (members.lookup "n_gpus_per_node") trainer.devicesPerNode

def OverridesFrom (members : List (String × Value)) (overrides : NameMap String) : Prop :=
  ∀ key, members.lookup key = (overrides.get? key).map .string

structure Placement.ReadFrom (members : List (String × Value)) (placement : Placement) :
    Prop where
  sharing : GivenOr NamesSharing .colocated (members.lookup "policy") placement.sharing
  globalPool : GivenOrNull (Spells .string) (members.lookup "global_pool") placement.globalPool
  actorPool : GivenOrNull (Spells .string) (members.lookup "actor_pool") placement.actorPool
  criticPool : GivenOrNull (Spells .string) (members.lookup "critic_pool") placement.criticPool
  rewardPool : GivenOrNull (Spells .string) (members.lookup "reward_pool") placement.rewardPool
  overrides : GivenOr (IsObject OverridesFrom) .empty (members.lookup "overrides")
    placement.overrides

structure RewardModel.ReadFrom (members : List (String × Value)) (rewardModel : RewardModel) :
    Prop where
  enabled : GivenOr (Spells .boolean) false (members.lookup "enable") rewardModel.enabled
  ownPool : GivenOr (Spells .boolean) false (members.lookup "enable_resource_pool")
    rewardModel.ownPool
  devicesPerNode : GivenOr (Spells .count) 0 (members.lookup "n_gpus_per_node")
    rewardModel.devicesPerNode
  nodes : GivenOr (Spells .count) 0 (members.lookup "nnodes") rewardModel.nodes

structure ReadFrom (members : List (String × Value)) (job : Job) : Prop where
  trainer : Given (IsObject Trainer.ReadFrom) (members.lookup "trainer") job.trainer
  placement : GivenOr (IsObject Placement.ReadFrom) .standard (members.lookup "placement")
    job.placement
  rewardModel : GivenOrNull (IsObject RewardModel.ReadFrom) (members.lookup "reward_model")
    job.rewardModel

/-! ## What can be read -/

theorem reads_sharing {value : Value} (json : value.IsJson) :
    (Sharing.decode .json).Reads NamesSharing value := by
  intro sharing
  rw [Sharing.decode, Decoder.reads_choice _ json]
  have named (name : String) :
      (Sharing.all.map fun sharing => (sharing.name, sharing)).lookup name = some sharing ↔
        name = sharing.name := by
    rw [lookup_eq_some_iff_mem (by decide)]
    cases sharing <;> simp [Sharing.all, Sharing.name]
  simp only [named, exists_eq_left, NamesSharing]

section Records

variable {value : Value} (json : value.IsJson) (object : value.elements? = none)

include json object

theorem Trainer.reads_decode : (decode .json).Reads (IsObject ReadFrom) value := by
  refine Fields.reads_decoder covers_fields json object fun members same trainer => ?_
  have distinct := (same ▸ json).distinct
  simp only [fields, Fields.seq_build_eq_ok_iff, Fields.map_build_eq_ok_iff,
    Fields.required_sorted_eq_ok_iff distinct fun value _ => Decoder.reads_int64 value]
  constructor
  · rintro ⟨_, ⟨nodes, first, rfl⟩, devices, second, rfl⟩
    exact ⟨first, second⟩
  · rintro ⟨first, second⟩
    exact ⟨_, ⟨_, first, rfl⟩, _, second, rfl⟩

theorem RewardModel.reads_decode : (decode .json).Reads (IsObject ReadFrom) value := by
  refine Fields.reads_decoder covers_fields json object fun members same rewardModel => ?_
  have distinct := (same ▸ json).distinct
  simp only [fields, Fields.seq_build_eq_ok_iff, Fields.map_build_eq_ok_iff,
    Fields.defaulted_sorted_eq_ok_iff distinct fun value _ => Decoder.reads_boolean value,
    Fields.defaulted_sorted_eq_ok_iff distinct fun value _ => Decoder.reads_int64 value]
  constructor
  · rintro ⟨_, ⟨_, ⟨_, ⟨enabled, first, rfl⟩, ownPool, second, rfl⟩, devices, third, rfl⟩,
      nodes, fourth, rfl⟩
    exact ⟨first, second, third, fourth⟩
  · rintro ⟨first, second, third, fourth⟩
    exact ⟨_, ⟨_, ⟨_, ⟨_, first, rfl⟩, _, second, rfl⟩, _, third, rfl⟩, _, fourth, rfl⟩

theorem Placement.reads_decode : (decode .json).Reads (IsObject ReadFrom) value := by
  refine Fields.reads_decoder (covers_fields .json) json object fun members same placement => ?_
  have inner : (Value.table members).IsJson := same ▸ json
  have distinct := inner.distinct
  simp only [fields, Fields.seq_build_eq_ok_iff, Fields.map_build_eq_ok_iff,
    Fields.defaulted_sorted_eq_ok_iff distinct fun value found =>
      reads_sharing (inner.member found),
    Fields.optional_sorted_eq_ok_iff distinct (fun value _ => Decoder.reads_string value)
      (by simp [Spells]),
    Fields.defaulted_sorted_eq_ok_iff distinct fun value found => Decoder.reads_mapOf
      (fun _ _ => Decoder.string_eq_ok_iff) (fun _ => rfl) (inner.member found)]
  constructor
  · rintro ⟨_, ⟨_, ⟨_, ⟨_, ⟨_, ⟨sharing, first, rfl⟩, global, second, rfl⟩, actor, third, rfl⟩,
      critic, fourth, rfl⟩, reward, fifth, rfl⟩, overrides, last, rfl⟩
    exact ⟨first, second, third, fourth, fifth, last⟩
  · rintro ⟨first, second, third, fourth, fifth, last⟩
    exact ⟨_, ⟨_, ⟨_, ⟨_, ⟨_, ⟨_, first, rfl⟩, _, second, rfl⟩, _, third, rfl⟩, _, fourth, rfl⟩,
      _, fifth, rfl⟩, _, last, rfl⟩

end Records

/-- The members that have to be objects if they are there, and not arrays of their fields. -/
def recordKeys : List String := ["trainer", "placement", "reward_model"]

theorem ofJson_eq_ok_iff {members : List (String × Value)} (json : (Value.table members).IsJson)
    (objects : ∀ key ∈ recordKeys, ∀ value ∈ members.lookup key, value.elements? = none)
    {job : Job} : ofJson (.table members) = .ok job ↔ job.ReadFrom members := by
  have reads : (decode .json).Reads (IsObject ReadFrom) (.table members) := by
    refine Fields.reads_decoder (covers_fields .json) json rfl fun inner same job => ?_
    obtain rfl := Value.table.inj same
    simp only [recordKeys, List.forall_mem_cons] at objects
    obtain ⟨trainer, placement, reward, -⟩ := objects
    simp only [fields, Fields.seq_build_eq_ok_iff, Fields.map_build_eq_ok_iff,
      Fields.required_sorted_eq_ok_iff json.distinct fun value found =>
        Trainer.reads_decode (json.member found) (trainer value found),
      Fields.defaulted_sorted_eq_ok_iff json.distinct fun value found =>
        Placement.reads_decode (json.member found) (placement value found),
      Fields.optional_sorted_eq_ok_iff json.distinct (fun value found =>
        RewardModel.reads_decode (json.member found) (reward value found)) (by simp [IsObject])]
    constructor
    · rintro ⟨_, ⟨_, ⟨trainer, first, rfl⟩, placement, second, rfl⟩, rewardModel, third, rfl⟩
      exact ⟨first, second, third⟩
    · rintro ⟨first, second, third⟩
      exact ⟨_, ⟨_, ⟨_, first, rfl⟩, _, second, rfl⟩, _, third, rfl⟩
  rw [ofJson, reads]
  simp [IsObject]

theorem Trainer.isJson_encode (trainer : Trainer) : trainer.encode.IsJson := by
  refine .table (by simp) ?_
  simp only [List.forall_mem_cons]
  exact ⟨.integer _, .integer _, nofun⟩

theorem Trainer.readFrom_encode (trainer : Trainer) : IsObject ReadFrom trainer.encode trainer :=
  ⟨_, rfl, ⟨_, rfl, rfl⟩, ⟨_, rfl, rfl⟩⟩

theorem RewardModel.isJson_encode (rewardModel : RewardModel) : rewardModel.encode.IsJson := by
  refine .table (by simp) ?_
  simp only [List.forall_mem_cons]
  exact ⟨.boolean _, .boolean _, .integer _, .integer _, nofun⟩

theorem RewardModel.readFrom_encode (rewardModel : RewardModel) :
    IsObject ReadFrom rewardModel.encode rewardModel :=
  ⟨_, rfl, .inl ⟨_, rfl, rfl⟩, .inl ⟨_, rfl, rfl⟩, .inl ⟨_, rfl, rfl⟩, .inl ⟨_, rfl, rfl⟩⟩

namespace Placement

theorem isJson_encodeName (name : Option String) : (encodeName name).IsJson := by
  cases name with
  | none => exact .null
  | some name => exact .string name

theorem givenOrNull_encodeName (name : Option String) :
    GivenOrNull (Spells .string) (some (encodeName name)) name := by
  cases name with
  | none => exact .inr rfl
  | some name => exact ⟨_, rfl, rfl⟩

theorem isJson_encode (placement : Placement) : placement.encode.IsJson := by
  have overrides : (Value.table
      (placement.overrides.entries.map fun entry => (entry.1, .string entry.2))).IsJson := by
    have names := placement.overrides.nodup_names
    refine .table (by simpa [Function.comp_def] using names) fun member inside => ?_
    obtain ⟨entry, -, rfl⟩ := List.mem_map.mp inside
    exact .string _
  unfold encode
  refine .table (by split <;> simp) ?_
  rw [List.forall_mem_append]
  constructor
  · simp only [List.forall_mem_cons]
    exact ⟨.string _, isJson_encodeName _, isJson_encodeName _, isJson_encodeName _,
      isJson_encodeName _, nofun⟩
  · split
    · nofun
    · simpa using overrides

theorem readFrom_encode (placement : Placement) :
    IsObject ReadFrom placement.encode placement := by
  refine ⟨_, rfl, .inl ⟨_, rfl, .inl rfl⟩, givenOrNull_encodeName _, givenOrNull_encodeName _,
    givenOrNull_encodeName _, givenOrNull_encodeName _, ?_⟩
  by_cases empty : placement.overrides.isEmpty = true
  · refine .inr ⟨by simp [empty, List.lookup_cons], NameMap.eq_of_entries ?_⟩
    exact List.isEmpty_iff.mp empty
  · refine .inl ⟨_, by simp [empty, List.lookup_cons]; rfl, _, rfl, fun key => ?_⟩
    exact lookup_map_snd placement.overrides.entries Value.string key

end Placement

theorem isJson_encode (job : Job) : job.encode.IsJson := by
  refine .table (by simp) ?_
  simp only [List.forall_mem_cons]
  refine ⟨job.trainer.isJson_encode, job.placement.isJson_encode, ?_, nofun⟩
  cases job.rewardModel with
  | none => exact .null
  | some rewardModel => exact rewardModel.isJson_encode

theorem ofJson_encode (job : Job) : ofJson job.encode = .ok job := by
  refine (ofJson_eq_ok_iff job.isJson_encode ?_).mpr ?_
  · simp only [recordKeys, List.forall_mem_cons, List.lookup_cons]
    cases reward : job.rewardModel <;>
      simp [Trainer.encode, Placement.encode, RewardModel.encode, Value.elements?]
  · refine ⟨⟨_, rfl, job.trainer.readFrom_encode⟩,
      .inl ⟨_, rfl, job.placement.readFrom_encode⟩, ?_⟩
    cases reward : job.rewardModel with
    | none => exact .inr rfl
    | some rewardModel => exact ⟨_, rfl, rewardModel.readFrom_encode⟩

/-! ## Null -/

theorem at?_single (members : List (String × Value)) (key : String) :
    (Value.table members).at? [key] = members.lookup key := by
  cases found : members.lookup key <;> simp [Value.at?, found]

theorem at?_pair_eq_some_iff {members : List (String × Value)} {outer key : String}
    {value : Value} : (Value.table members).at? [outer, key] = some value ↔
      ∃ inner, members.lookup outer = some (.table inner) ∧ inner.lookup key = some value := by
  constructor
  · intro reached
    obtain ⟨between, found, reached⟩ := Option.bind_eq_some_iff.mp reached
    cases between with
    | table inner => exact ⟨inner, found, (at?_single inner key).symm.trans reached⟩
    | _ => cases reached
  · rintro ⟨inner, found, last⟩
    exact Option.bind_eq_some_iff.mpr ⟨_, found, (at?_single inner key).trans last⟩

def sparse : Job :=
  ⟨⟨-3, 0x7fffffffffffffff⟩,
    ⟨.split, none, none, none, none, ⟨[("critic", "b")], List.pairwise_singleton _ _⟩⟩,
    some ⟨true, false, 0, 0⟩⟩

end Job

end DevicePlan
