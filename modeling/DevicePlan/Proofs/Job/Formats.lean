import DevicePlan.Proofs.Document.Matching
import DevicePlan.Proofs.Job.Json
import DevicePlan.Proofs.Job.Undeclared
import DevicePlan.Proofs.Toml.Distinct

/-!
# Configurations in both formats

A configuration may come as a JSON value, whose keys are then visited in ascending order, or as a
TOML document, whose keys are visited as they stand. The same tree is the same job in both
(`formats_agree`), except that the kind of sharing is written in two ways if it is a table. In
either format the order of the keys counts only where one of several faults is to be reported, and
members that are not declared count nowhere (`neither_order_nor_undeclared_counts`).
-/

namespace DevicePlan

namespace Toml

/-- The tree that the text is read as, up to the order of keys and tables. A text that is nested
deeper than the reader goes denotes nothing, since reading it fails. -/
def Denotes (text : String) (tree : Value) : Prop :=
  ∃ members, read? text = some members ∧ tree.Alike (.table members)

theorem isPlain_of_mem_values {entries : List (String × Scalar)} :
    ∀ member ∈ values entries, member.2.IsPlain := by
  intro member inside
  obtain ⟨⟨key, scalar⟩, -, rfl⟩ := List.mem_map.mp inside
  cases scalar with
  | string text => exact .string text
  | boolean flag => exact .boolean flag
  | integer n =>
    have low := n.le_toInt
    have high := n.toInt_lt
    exact .integer (by omega) (by omega)

theorem Table.Distinct.isPlain {table : Table} (distinct : table.Distinct) :
    (Value.table table.members).IsPlain := by
  refine .table distinct.nodup_members ?_
  rw [Table.members, List.forall_mem_append]
  refine ⟨isPlain_of_mem_values, fun member inside => ?_⟩
  obtain ⟨part, listed, rfl⟩ := List.mem_map.mp inside
  exact .table (by rw [keys_values]; exact distinct.inner part listed) isPlain_of_mem_values

theorem isPlain_tables {tables : List Table} (names : (tables.map Table.name).Nodup)
    (distinct : ∀ table ∈ tables, table.Distinct) :
    (Value.table (tables.map fun table => (table.name, .table table.members))).IsPlain := by
  refine .table (by simpa [Function.comp_def] using names) fun member inside => ?_
  obtain ⟨table, listed, rfl⟩ := List.mem_map.mp inside
  exact (distinct table listed).isPlain

end Toml

namespace Job

/-! ## Records that match -/

section Matches

open Fields

variable {format other : Format} {value image : Value}

theorem Trainer.matches_decode (corresponds : value.Corresponds format other image) :
    (decode format).Matches (decode other) value image := by
  refine matches_decoder covers_fields covers_fields rfl corresponds fun _ _ same _ => ?_
  have count (name : String) := matches_required same name fun _ _ _ inside =>
    Decoder.matches_int64 inside.alike
  exact ((count "nnodes").map mk).seq (count "n_gpus_per_node")

theorem RewardModel.matches_decode (corresponds : value.Corresponds format other image) :
    (decode format).Matches (decode other) value image := by
  refine matches_decoder covers_fields covers_fields rfl corresponds fun _ _ same _ => ?_
  have flag (name : String) := matches_defaulted same name
    (fun _ _ _ inside => Decoder.matches_boolean inside.alike) false
  have count (name : String) := matches_defaulted same name
    (fun _ _ _ inside => Decoder.matches_int64 inside.alike) 0
  exact ((((flag "enable").map mk).seq (flag "enable_resource_pool")).seq
    (count "n_gpus_per_node")).seq (count "nnodes")

def NoTable (format other : Format) (value : Value) (path : List String) : Prop :=
  format = other ∨ ∀ members, value.at? path ≠ some (.table members)

theorem NoTable.inside {key : String} {path : List String}
    (noTable : NoTable format other value (key :: path)) {entries : List (String × Value)}
    (written : format = other ∨ value = .table entries) {inner : Value}
    (found : entries.lookup key = some inner) : NoTable format other inner path := by
  rcases written with same | rfl
  · exact .inl same
  · refine noTable.imp_right fun noTable members reached => noTable members ?_
    rw [Value.at?, found, Option.bind_some, reached]

theorem matches_sharing (alike : value.Alike image) (noTable : NoTable format other value []) :
    (Sharing.decode format).Matches (Sharing.decode other) value image := by
  rcases noTable with rfl | noTable
  · exact Decoder.matches_choice format _ alike
  · exact Decoder.matches_choice_of_ne_table format other _ alike fun members table =>
      noTable members (congrArg some table)

theorem Placement.matches_decode (corresponds : value.Corresponds format other image)
    (policy : NoTable format other value ["policy"]) :
    (decode format).Matches (decode other) value image := by
  refine matches_decoder (covers_fields format) (covers_fields other) rfl corresponds
    fun _ _ same written => ?_
  have sharing := matches_defaulted same "policy" (fun _ _ found inside =>
    matches_sharing inside.alike (policy.inside written found)) .colocated
  have name (key : String) := matches_optional same key fun _ _ _ inside =>
    Decoder.matches_string inside.alike
  have overrides := matches_defaulted same "overrides" (fun _ _ _ inside =>
    Decoder.matches_mapOf (fun _ _ => Decoder.matches_string) inside.unambiguous inside.alike)
    .empty
  exact (((((sharing.map mk).seq (name "global_pool")).seq (name "actor_pool")).seq
    (name "critic_pool")).seq (name "reward_pool")).seq overrides

theorem matches_decode (corresponds : value.Corresponds format other image)
    (policy : NoTable format other value ["placement", "policy"]) :
    (decode format).Matches (decode other) value image := by
  refine matches_decoder (covers_fields format) (covers_fields other) rfl corresponds
    fun _ _ same written => ?_
  have trainer := matches_required same "trainer" fun _ _ _ inside =>
    Trainer.matches_decode inside
  have placement := matches_defaulted same "placement" (fun _ _ found inside =>
    Placement.matches_decode inside (policy.inside written found)) .standard
  have reward := matches_optional same "reward_model" fun _ _ _ inside =>
    RewardModel.matches_decode inside
  exact ((trainer.map mk).seq placement).seq reward

end Matches

theorem ofToml_eq_ok_iff {text : String} {job : Job} : ofToml text = .ok job ↔
    ∃ members, Toml.read? text = some members ∧ decode .toml (.table members) = .ok job := by
  unfold ofToml
  cases Toml.read? text with
  | none => simp
  | some members => cases decoded : decode .toml (.table members) <;> simp [decoded]

theorem ofToml_of_denotes {text : String} {tree : Value} (denotes : Toml.Denotes text tree)
    (job : Job) : ofToml text = .ok job ↔ decode .toml tree = .ok job := by
  obtain ⟨members, read, alike⟩ := denotes
  have corresponds : tree.Corresponds .toml .toml (.table members) :=
    ⟨alike.symm.unambiguous (Toml.unambiguous_read read), alike, .inl rfl⟩
  rw [matches_decode corresponds (.inl rfl) job, ofToml_eq_ok_iff, read]
  simp

theorem ofJson_of_plain {tree : Value} (plain : tree.IsPlain)
    (policy : ∀ members, tree.at? ["placement", "policy"] ≠ some (.table members)) (job : Job) :
    ofJson tree = .ok job ↔ decode .toml tree = .ok job := by
  have unambiguous := plain.isJson.unambiguous
  -- Sorting is only a reordering, so the sorted tree is compared with the tree as it stands.
  have sorted : tree.Corresponds .toml .json tree.sorted :=
    ⟨unambiguous, unambiguous.alike_sorted, .inr plain⟩
  exact (matches_decode sorted (.inr policy) job).symm

theorem ofToml_congr {text longer : String} {tree larger : Value}
    (denotes : Toml.Denotes text tree) (further : Toml.Denotes longer larger)
    (same : decode .toml larger = decode .toml tree) (job : Job) :
    ofToml longer = .ok job ↔ ofToml text = .ok job := by
  rw [ofToml_of_denotes denotes, ofToml_of_denotes further, same]

/-! ## Written configurations -/

section Written

variable (job : Job)

theorem isPlain_members : (Value.table job.members).IsPlain :=
  Toml.isPlain_tables job.nodup_names job.distinct_tables

theorem at?_policy (members : List (String × Value)) :
    (Value.table job.members).at? ["placement", "policy"] ≠ some (.table members) := by
  intro reached
  obtain ⟨inner, found, last⟩ := at?_pair_eq_some_iff.mp reached
  rw [lookup_placement, Option.some.injEq, Value.table.injEq] at found
  rw [← found, Placement.lookup_policy] at last
  cases last

def backwards : String := Toml.write (job.tables.reverse.flatMap Toml.Table.sections)

theorem denotes_backwards : Toml.Denotes job.backwards (.table job.members) := by
  have names : (job.tables.reverse.map Toml.Table.name).Nodup := by
    rw [List.map_reverse, List.nodup_reverse]
    exact job.nodup_names
  have read := Toml.read?_write names fun table listed =>
    job.distinct_tables table (List.mem_reverse.mp listed)
  rw [List.map_reverse] at read
  exact ⟨_, read, job.isPlain_members.isJson.unambiguous.alike_of_perm (List.reverse_perm _).symm⟩

def seededTables : List Toml.Table :=
  ⟨"trainer", ("seed", .boolean true) :: job.trainer.part.entries, []⟩ :: job.tables.tail

def seeded : String := Toml.write (job.seededTables.flatMap Toml.Table.sections)

def seededMembers : List (String × Value) :=
  job.seededTables.map fun table => (table.name, .table table.members)

theorem distinct_seededTables : ∀ table ∈ job.seededTables, table.Distinct := by
  rw [seededTables, List.forall_mem_cons]
  exact ⟨⟨by simp [Trainer.part], nofun⟩, fun table listed =>
    job.distinct_tables table (List.mem_of_mem_tail listed)⟩

theorem read?_seeded : Toml.read? job.seeded = some job.seededMembers :=
  Toml.read?_write job.nodup_names job.distinct_seededTables

theorem isPlain_seededMembers : (Value.table job.seededMembers).IsPlain :=
  Toml.isPlain_tables job.nodup_names job.distinct_seededTables

theorem denotes_seeded : Toml.Denotes job.seeded (.table job.seededMembers) :=
  ⟨_, job.read?_seeded, job.isPlain_seededMembers.isJson.unambiguous.alike_refl⟩

theorem addsUndeclared_seededMembers : AddsUndeclared job.members job.seededMembers :=
  .inside List.mem_cons_self (.insert [] job.trainer.table.members (.boolean true) (by decide)) []
    (job.members.tail)

end Written

/-! ## The statements -/

theorem formats_agree {tree : Value} (plain : tree.IsPlain)
    (policy : ∀ members, tree.at? ["placement", "policy"] ≠ some (.table members)) {text : String}
    (denotes : Toml.Denotes text tree) :
    (∀ job, ofJson tree = .ok job ↔ ofToml text = .ok job) ∧
    ((∃ error, ofJson tree = .error error) ↔ ∃ error, ofToml text = .error error) ∧
    ∀ members larger longer, tree = .table members → AddsUndeclared members larger →
      (Value.table larger).IsPlain → Toml.Denotes longer (.table larger) →
      ofJson (.table larger) = ofJson tree ∧
        ∀ job, ofToml longer = .ok job ↔ ofToml text = .ok job := by
  have agree (job : Job) : ofJson tree = .ok job ↔ ofToml text = .ok job :=
    (ofJson_of_plain plain policy job).trans (ofToml_of_denotes denotes job).symm
  refine ⟨agree, ?_, ?_⟩
  · simp only [exists_error_iff, ne_eq, agree]
  · rintro members larger longer rfl adds richer further
    exact ⟨ofJson_of_addsUndeclared adds richer.isJson,
      ofToml_congr denotes further (decode_of_addsUndeclared .toml adds)⟩

theorem formats_agree_sparse :
    ofJson (.table sparse.members) = .ok sparse ∧ ofToml sparse.backwards = .ok sparse ∧
    ofJson (.table sparse.seededMembers) = .ok sparse ∧ ofToml sparse.seeded = .ok sparse := by
  obtain ⟨agree, -, richer⟩ :=
    formats_agree sparse.isPlain_members sparse.at?_policy sparse.denotes_backwards
  obtain ⟨same, further⟩ := richer _ _ _ rfl sparse.addsUndeclared_seededMembers
    sparse.isPlain_seededMembers sparse.denotes_seeded
  have read := (ofToml_of_denotes sparse.denotes_backwards sparse).mpr sparse.decode_members
  have decoded := (agree sparse).mpr read
  exact ⟨decoded, read, same.trans decoded, (further sparse).mpr read⟩

end Job

end DevicePlan
