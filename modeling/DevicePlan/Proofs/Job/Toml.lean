import DevicePlan.Job.Load
import DevicePlan.Proofs.Document.Decode
import DevicePlan.Proofs.Toml.Table

namespace DevicePlan

namespace Job

open Toml (Scalar Table)

def Placement.entries (placement : Placement) : List (String × Scalar) :=
  ("policy", .string placement.sharing.name) ::
    nameEntry "global_pool" placement.globalPool ++ nameEntry "actor_pool" placement.actorPool ++
    nameEntry "critic_pool" placement.criticPool ++ nameEntry "reward_pool" placement.rewardPool

def Placement.table (placement : Placement) : Table :=
  ⟨"placement", placement.entries,
    if placement.overrides.isEmpty then []
    else [("overrides", placement.overrides.entries.map fun (role, pool) => (role, .string pool))]⟩

def Trainer.table (trainer : Trainer) : Table := ⟨"trainer", trainer.part.entries, []⟩

def RewardModel.table (rewardModel : RewardModel) : Table :=
  ⟨"reward_model", rewardModel.part.entries, []⟩

def tables (job : Job) : List Table :=
  job.trainer.table :: job.placement.table :: (job.rewardModel.map RewardModel.table).toList

theorem sections_tables (job : Job) : job.tables.flatMap Table.sections = job.parts := by
  have trainer : job.trainer.table.sections = [job.trainer.part] := rfl
  have placement : job.placement.table.sections = job.placement.parts := by
    unfold Placement.table Placement.parts Table.sections
    split <;> rfl
  have reward : (job.rewardModel.map RewardModel.table).toList.flatMap Table.sections =
      (job.rewardModel.map RewardModel.part).toList := by
    cases job.rewardModel <;> rfl
  rw [tables, List.flatMap_cons, List.flatMap_cons, trainer, placement, reward]
  rfl

theorem keys_nameEntry (key : String) (name : Option String) :
    ((nameEntry key name).map Prod.fst).Sublist [key] := by
  cases name with
  | none => exact List.nil_sublist _
  | some name => exact List.Sublist.refl _

theorem Placement.keys_sublist (placement : Placement) :
    (placement.entries.map Prod.fst).Sublist
      ["policy", "global_pool", "actor_pool", "critic_pool", "reward_pool"] := by
  have policy := List.Sublist.refl ["policy"]
  have names := ((policy.append (keys_nameEntry "global_pool" placement.globalPool)).append
    (keys_nameEntry "actor_pool" placement.actorPool)).append
    (keys_nameEntry "critic_pool" placement.criticPool)
  simp only [entries, List.map_append, List.map_cons]
  exact names.append (keys_nameEntry "reward_pool" placement.rewardPool)

theorem Placement.inner_table (placement : Placement) :
    placement.table.inner = [] ∨ placement.table.inner =
      [("overrides",
        placement.overrides.entries.map fun (role, pool) => (role, .string pool))] := by
  unfold table
  split
  · exact .inl rfl
  · exact .inr rfl

theorem Placement.distinct_table (placement : Placement) : placement.table.Distinct where
  keys := by
    have inner : (placement.table.inner.map Prod.fst).Sublist ["overrides"] := by
      rcases placement.inner_table with none | some
      · simp [none]
      · simp [some]
    exact (placement.keys_sublist.append inner).nodup (by decide)
  inner := by
    intro part member
    rcases placement.inner_table with none | some
    · simp [none] at member
    · rw [some, List.mem_singleton] at member
      subst member
      have names := placement.overrides.nodup_names
      simpa [Function.comp_def] using names

theorem Trainer.distinct_table (trainer : Trainer) : trainer.table.Distinct where
  keys := by simp [table, part]
  inner := by simp [table]

theorem RewardModel.distinct_table (rewardModel : RewardModel) : rewardModel.table.Distinct where
  keys := by simp [table, part]
  inner := by simp [table]

theorem distinct_tables (job : Job) : ∀ table ∈ job.tables, table.Distinct := by
  intro table member
  simp only [tables, List.mem_cons, Option.mem_toList, Option.map_eq_some_iff] at member
  rcases member with rfl | rfl | ⟨rewardModel, -, rfl⟩
  · exact job.trainer.distinct_table
  · exact job.placement.distinct_table
  · exact rewardModel.distinct_table

theorem nodup_names (job : Job) : (job.tables.map Table.name).Nodup := by
  cases reward : job.rewardModel <;>
    simp [tables, reward, Trainer.table, Placement.table, RewardModel.table]

def members (job : Job) : List (String × Value) :=
  job.tables.map fun table => (table.name, .table table.members)

theorem read?_toToml (job : Job) : Toml.read? job.toToml = some job.members := by
  rw [toToml, ← sections_tables]
  exact Toml.read?_write job.nodup_names job.distinct_tables

open Fields in
theorem Trainer.covers_fields : Trainer.fields.Covers :=
  ((covers_required _ _).map mk).seq (covers_required _ _)

open Fields in
theorem Placement.covers_fields (format : Format) : (Placement.fields format).Covers :=
  ((((((covers_defaulted _ _ _).map mk).seq (covers_optional _ _)).seq
    (covers_optional _ _)).seq (covers_optional _ _)).seq (covers_optional _ _)).seq
    (covers_defaulted _ _ _)

open Fields in
theorem RewardModel.covers_fields : RewardModel.fields.Covers :=
  ((((covers_defaulted _ _ _).map mk).seq (covers_defaulted _ _ _)).seq
    (covers_defaulted _ _ _)).seq (covers_defaulted _ _ _)

open Fields in
theorem covers_fields (format : Format) : (fields format).Covers :=
  (((covers_required _ _).map mk).seq (covers_defaulted _ _ _)).seq (covers_optional _ _)

theorem Trainer.decode_table (trainer : Trainer) :
    Trainer.decode .toml (.table trainer.table.members) = .ok trainer := by
  apply (Fields.ofMembers_eq_ok_iff covers_fields trainer.distinct_table.nodup_members).mpr
  simp [fields, Fields.seq_build_eq_ok_iff, Fields.map_build_eq_ok_iff,
    Fields.required_build_eq_ok_iff, table, part, Toml.Table.members, Toml.values, Scalar.value,
    List.lookup_cons, Decoder.int64_toInt]

theorem RewardModel.decode_table (rewardModel : RewardModel) :
    RewardModel.decode .toml (.table rewardModel.table.members) = .ok rewardModel := by
  apply (Fields.ofMembers_eq_ok_iff covers_fields rewardModel.distinct_table.nodup_members).mpr
  simp [fields, Fields.seq_build_eq_ok_iff, Fields.map_build_eq_ok_iff,
    Fields.defaulted_build_eq_ok_iff, table, part, Toml.Table.members, Toml.values, Scalar.value,
    List.lookup_cons, Decoder.int64_toInt, Decoder.boolean]

theorem lookup_nameEntry (key other : String) (name : Option String) :
    (Toml.values (nameEntry key name)).lookup other =
      if other = key then name.map Value.string else none := by
  cases name with
  | none => simp [Toml.values, nameEntry]
  | some name =>
    by_cases same : other = key
    · simp [Toml.values, nameEntry, same, Scalar.value]
    · simp [Toml.values, nameEntry, same, List.lookup_cons, beq_false_of_ne same]

namespace Placement

variable (placement : Placement)

theorem values_entries : Toml.values placement.table.entries =
    ("policy", .string placement.sharing.name) ::
      (Toml.values (nameEntry "global_pool" placement.globalPool) ++
      Toml.values (nameEntry "actor_pool" placement.actorPool) ++
      Toml.values (nameEntry "critic_pool" placement.criticPool) ++
      Toml.values (nameEntry "reward_pool" placement.rewardPool)) := by
  simp [table, entries, Toml.values, Scalar.value]

theorem lookup_inner {key : String} (other : key ≠ "overrides") :
    (placement.table.inner.map fun (name, entries) =>
      (name, Value.table (Toml.values entries))).lookup key = none := by
  rcases placement.inner_table with none | some
  · simp [none]
  · simp [some, List.lookup_cons, beq_false_of_ne other]

theorem lookup_policy :
    placement.table.members.lookup "policy" = some (.string placement.sharing.name) := by
  simp [Table.members, values_entries]

def names : List (String × Option String) :=
  [("global_pool", placement.globalPool), ("actor_pool", placement.actorPool),
    ("critic_pool", placement.criticPool), ("reward_pool", placement.rewardPool)]

theorem lookup_name : ∀ entry ∈ placement.names,
    placement.table.members.lookup entry.1 = entry.2.map .string := by
  simp [names, Table.members, values_entries, List.lookup_append, List.lookup_cons,
    lookup_nameEntry, lookup_inner]

theorem lookup_overrides : placement.table.members.lookup "overrides" =
    if placement.overrides.isEmpty then none
    else some (.table
      (placement.overrides.entries.map fun (role, pool) => (role, .string pool))) := by
  simp [Table.members, values_entries, List.lookup_append, List.lookup_cons, lookup_nameEntry]
  unfold table
  split <;> simp [Toml.values, Scalar.value]

theorem build_name (missing : String → DecodeError) : ∀ entry ∈ placement.names,
    (Fields.optional entry.1 Decoder.string).build ⟨placement.table.members, missing, true⟩ =
      .ok entry.2 := by
  intro entry member
  apply Fields.optional_build_map (placement.lookup_name entry member) rfl
  exact fun _ => rfl

theorem build_overrides (missing : String → DecodeError) :
    (Fields.defaulted "overrides" (Decoder.mapOf .string) NameMap.empty).build
      ⟨placement.table.members, missing, true⟩ = .ok placement.overrides := by
  rw [Fields.defaulted_build_eq_ok_iff, lookup_overrides]
  split
  · rename_i absent
    refine .inr ⟨rfl, NameMap.eq_of_entries ?_⟩
    exact List.isEmpty_iff.mp absent
  · have reads : ∀ pool : String, Decoder.string (.string pool) = .ok pool := fun _ => rfl
    have read := Decoder.mapOf_map reads placement.overrides.entries
    rw [NameMap.ofList_entries] at read
    exact .inl ⟨_, rfl, read⟩

theorem decode_sharing (sharing : Sharing) (format : Format) :
    Sharing.decode format (.string sharing.name) = .ok sharing := by
  cases sharing <;> rfl

theorem decode_table : Placement.decode .toml (.table placement.table.members) = .ok placement := by
  apply (Fields.ofMembers_eq_ok_iff (covers_fields .toml)
    placement.distinct_table.nodup_members).mpr
  have names := placement.build_name .missingField
  simp only [Placement.names, List.forall_mem_cons] at names
  obtain ⟨global, actor, critic, reward, -⟩ := names
  simp [fields, Fields.seq_build_eq_ok_iff, Fields.map_build_eq_ok_iff,
    Fields.defaulted_build_eq_ok_iff, global, actor, critic, reward, build_overrides,
    lookup_policy, decode_sharing]

end Placement

theorem lookup_placement (job : Job) :
    job.members.lookup "placement" = some (.table job.placement.table.members) := by
  simp [members, tables, Trainer.table, Placement.table, List.lookup_cons]

theorem lookup_reward (job : Job) : job.members.lookup "reward_model" =
    job.rewardModel.map fun rewardModel => .table rewardModel.table.members := by
  cases reward : job.rewardModel <;> simp [members, tables, reward, List.lookup_cons, Trainer.table,
    Placement.table, RewardModel.table]

theorem build_reward (job : Job) (missing : String → DecodeError) :
    (Fields.optional "reward_model" (RewardModel.decode .toml)).build
      ⟨job.members, missing, true⟩ = .ok job.rewardModel := by
  apply Fields.optional_build_map job.lookup_reward rfl
  intro rewardModel
  simp [Decoder.nullable, RewardModel.decode_table, Except.map]

theorem decode_members (job : Job) : decode .toml (.table job.members) = .ok job := by
  have distinct : (job.members.map Prod.fst).Nodup := by
    have names := job.nodup_names
    simpa [members, Function.comp_def] using names
  have trainer : job.members.lookup "trainer" = some (.table job.trainer.table.members) := by
    simp [members, tables, Trainer.table]
  apply (Fields.ofMembers_eq_ok_iff (covers_fields .toml) distinct).mpr
  simp [fields, Fields.seq_build_eq_ok_iff, Fields.map_build_eq_ok_iff,
    Fields.required_build_eq_ok_iff, Fields.defaulted_build_eq_ok_iff, trainer, lookup_placement,
    build_reward, Trainer.decode_table, Placement.decode_table]

theorem load_toToml {job : Job} {storage : Storage} {path : String}
    (written : storage.readText path = .ok job.toToml) : load storage path = .ok job := by
  simp only [load, written, ofToml, read?_toToml, decode_members]

theorem ofToml_toToml (job : Job) : ofToml job.toToml = .ok job := by
  rw [ofToml, read?_toToml]
  simp only [decode_members]

end Job

end DevicePlan
