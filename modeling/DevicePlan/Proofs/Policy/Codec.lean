import DevicePlan.Proofs.Job.Formats

namespace DevicePlan

variable {α : Type}

theorem subset_iff_lookup {entries images : List (String × α)}
    (distinct : (images.map Prod.fst).Nodup) :
    entries ⊆ images ↔ ∀ entry ∈ entries, images.lookup entry.1 = some entry.2 := by
  refine forall_congr' fun entry => forall_congr' fun _ => ?_
  exact (lookup_eq_some_iff_mem distinct).symm

namespace Value

variable {members images : List (String × Value)}

theorem Alike.subset_of_scalars (alike : (Value.table members).Alike (.table images))
    (distinct : (members.map Prod.fst).Nodup)
    (plain : ∀ member ∈ members, member.2.isNested = false) : members ⊆ images := by
  rintro ⟨key, value⟩ inside
  have related := alike.lookup key
  rw [(lookup_eq_some_iff_mem distinct).mpr inside] at related
  generalize imaged : images.lookup key = found at related
  cases related with
  | some same =>
    rw [← same.eq_of_scalar (plain _ inside)] at imaged
    obtain ⟨before, after, rfl, -⟩ := List.lookup_eq_some_iff.mp imaged
    simp

theorem subset_sorted_iff (distinct : (images.map Prod.fst).Nodup)
    (plain : ∀ member ∈ members, member.2.isNested = false) :
    members ⊆ sortedMembers [] images ↔ members ⊆ images := by
  rw [subset_iff_lookup (nodup_sorted images), subset_iff_lookup distinct]
  refine forall₂_congr fun member inside => ?_
  simp [lookup_sorted distinct, sorted_eq_iff (plain member inside)]

end Value

namespace Decoder

/-- What is written is read back, with its keys in any order, as they stand and sorted. -/
def ReadsBack (decoder : Decoder α) (encode : α → Value) : Prop :=
  ∀ original value, (encode original).Alike value →
    decoder value = .ok original ∧ decoder value.sorted = .ok original

theorem readsBack_of_alike {decoder : Decoder α} {encode : α → Value}
    (unambiguous : ∀ original, (encode original).Unambiguous)
    (reads : ∀ original value, (encode original).Alike value → decoder value = .ok original) :
    decoder.ReadsBack encode := by
  intro original value alike
  have sorted := (alike.unambiguous (unambiguous original)).alike_sorted
  exact ⟨reads original value alike, reads original value.sorted (alike.trans sorted)⟩

theorem readsBack_of_subset {decoder : Decoder α} (members : α → List (String × Value))
    (distinct : ∀ original, ((members original).map Prod.fst).Nodup)
    (plain : ∀ original, ∀ member ∈ members original, member.2.isNested = false)
    (reads : ∀ original images, (images.map Prod.fst).Nodup → members original ⊆ images →
      decoder (.table images) = .ok original) :
    decoder.ReadsBack fun original => .table (members original) := by
  have unambiguous (original : α) : (Value.table (members original)).Unambiguous :=
    .table (distinct original) fun member inside => .scalar (plain original member inside)
  refine readsBack_of_alike unambiguous fun original value alike => ?_
  have table : ∃ images, value = .table images := by
    cases alike with
    | scalar scalar => cases scalar
    | list listed => cases listed
    | table keys each => exact ⟨_, rfl⟩
  obtain ⟨images, rfl⟩ := table
  exact reads original images (alike.unambiguous (unambiguous original)).distinct
    (alike.subset_of_scalars (distinct original) (plain original))

theorem uint32_eq_ok_iff {value : Value} {result : UInt32} :
    uint32 value = .ok result ↔ value = .integer result.toNat := by
  constructor
  · intro decoded
    cases value with
    | integer n =>
      simp only [uint32, integerIn] at decoded
      split at decoded
      · rename_i fits
        cases decoded
        rw [UInt32.toNat_ofNat_of_lt' (by rw [UInt32.size]; omega)]
        congr
        omega
      · cases decoded
    | _ => cases decoded
  · rintro rfl
    have high := result.toNat_lt
    rw [uint32, integerIn, if_pos (by omega), Int.toNat_natCast, UInt32.ofNat_toNat]

end Decoder

def PoolNames.members (names : PoolNames) : List (String × Value) :=
  [("global", .string names.global), ("actor_rollout_ref", .string names.actor),
    ("critic", .string names.critic), ("reward", .string names.reward)]

section Records

open Fields

variable {members : List (String × Value)} (distinct : (members.map Prod.fst).Nodup)

theorem AuxiliaryRequest.covers_fields : AuxiliaryRequest.fields.Covers :=
  (((covers_required _ _).map mk).seq (covers_required _ _)).seq (covers_required _ _)

theorem PoolNames.covers_fields : PoolNames.fields.Covers :=
  ((((covers_required _ _).map mk).seq (covers_required _ _)).seq (covers_required _ _)).seq
    (covers_required _ _)

include distinct

theorem AuxiliaryRequest.decoder_table_eq_ok_iff {excess : Excess} {request : AuxiliaryRequest} :
    fields.decoder title excess (.table members) = .ok request ↔ request.members ⊆ members := by
  change fields.ofMembers members = .ok request ↔ _
  rw [ofMembers_eq_ok_iff covers_fields distinct, subset_iff_lookup distinct]
  simp only [fields, seq_build_eq_ok_iff, map_build_eq_ok_iff, required_build_eq_ok_iff,
    Decoder.uint32_eq_ok_iff, Decoder.boolean_eq_ok_iff, AuxiliaryRequest.members,
    List.forall_mem_cons]
  constructor
  · rintro ⟨_, ⟨_, ⟨devices, ⟨_, first, rfl⟩, rfl⟩, nodes, ⟨_, second, rfl⟩, rfl⟩, bind,
      ⟨_, third, rfl⟩, rfl⟩
    exact ⟨first, second, third, nofun⟩
  · rintro ⟨first, second, third, -⟩
    exact ⟨_, ⟨_, ⟨_, ⟨_, first, rfl⟩, rfl⟩, _, ⟨_, second, rfl⟩, rfl⟩, _, ⟨_, third, rfl⟩, rfl⟩

theorem PoolNames.decode_table_eq_ok_iff {format : Format} {names : PoolNames} :
    decode format (.table members) = .ok names ↔ names.members ⊆ members := by
  change fields.ofMembers members = .ok names ↔ _
  rw [ofMembers_eq_ok_iff covers_fields distinct, subset_iff_lookup distinct]
  simp only [fields, seq_build_eq_ok_iff, map_build_eq_ok_iff, required_build_eq_ok_iff,
    Decoder.string_eq_ok_iff, PoolNames.members, List.forall_mem_cons]
  constructor
  · rintro ⟨_, ⟨_, ⟨_, ⟨global, ⟨_, first, rfl⟩, rfl⟩, actor, ⟨_, second, rfl⟩, rfl⟩, critic,
      ⟨_, third, rfl⟩, rfl⟩, reward, ⟨_, fourth, rfl⟩, rfl⟩
    exact ⟨first, second, third, fourth, nofun⟩
  · rintro ⟨first, second, third, fourth, -⟩
    exact ⟨_, ⟨_, ⟨_, ⟨_, ⟨_, first, rfl⟩, rfl⟩, _, ⟨_, second, rfl⟩, rfl⟩, _,
      ⟨_, third, rfl⟩, rfl⟩, _, ⟨_, fourth, rfl⟩, rfl⟩

end Records

namespace Policy

def members (policy : Policy) : List (String × Value) :=
  ("kind", .string policy.kindName) :: (policy.auxiliary.map AuxiliaryRequest.members).getD []

def kind (policy : Policy) : Kind := ⟨policy.sharing, policy.auxiliary.isSome⟩

theorem mem_kinds_iff {name : String} {policy : Policy} :
    (name, policy.kind) ∈ kinds ↔ name = policy.kindName := by
  obtain ⟨sharing, auxiliary⟩ := policy
  cases sharing <;> cases auxiliary <;> simp [kinds, kind, kindName, Sharing.name]

theorem decodeKind_eq_ok_iff {value : Value} {policy : Policy} :
    decodeKind value = .ok policy.kind ↔ value = .string policy.kindName := by
  cases value with
  | string name =>
    rw [decodeKind, Decoder.named_eq_ok_iff, lookup_eq_some_iff_mem (by decide), mem_kinds_iff,
      Value.string.injEq]
  | _ => simp [decodeKind, Decoder.mismatch]

theorem ofKind_table_eq_ok_iff {kind : Kind} {policy : Policy} {members : List (String × Value)}
    (distinct : (members.map Prod.fst).Nodup) :
    ofKind kind (.table members) = .ok policy ↔
      kind = policy.kind ∧ ∀ request ∈ policy.auxiliary, request.members ⊆ members := by
  obtain ⟨sharing, hasAuxiliary⟩ := kind
  obtain ⟨shared, auxiliary⟩ := policy
  cases hasAuxiliary with
  | false => cases auxiliary <;> simp [ofKind, Policy.kind]
  | true =>
    simp only [ofKind, ↓reduceIte, bind_eq_ok, pure_eq_ok,
      AuxiliaryRequest.decoder_table_eq_ok_iff distinct]
    cases auxiliary <;> simp [Policy.kind, and_comm, eq_comm]

theorem plain_members (policy : Policy) : ∀ member ∈ policy.members, member.2.isNested = false := by
  rw [members, List.forall_mem_cons]
  refine ⟨rfl, ?_⟩
  cases policy.auxiliary with
  | none => nofun
  | some request => simp [AuxiliaryRequest.members, Value.isNested]

theorem keys_members (policy : Policy) : policy.members.map Prod.fst =
    if policy.auxiliary.isSome then ["kind", "devices_per_node", "nodes", "bind_reward_model"]
    else ["kind"] := by
  rw [members, List.map_cons]
  cases policy.auxiliary <;> rfl

theorem exists_count_of_mem {policy : Policy} {key : String} {value : Value}
    (count : key ∈ ["devices_per_node", "nodes"]) (inside : (key, value) ∈ policy.members) :
    ∃ n : UInt32, value = .integer n.toNat := by
  obtain ⟨sharing, auxiliary⟩ := policy
  cases auxiliary with
  | none =>
    obtain ⟨rfl, -⟩ := Prod.mk.inj (List.mem_singleton.mp inside)
    simp at count
  | some request =>
    simp only [members, Option.map_some, Option.getD_some, AuxiliaryRequest.members, List.mem_cons,
      Prod.mk.injEq, List.not_mem_nil, or_false] at inside
    rcases inside with ⟨rfl, -⟩ | ⟨-, rfl⟩ | ⟨-, rfl⟩ | ⟨rfl, -⟩
    · simp at count
    · exact ⟨_, rfl⟩
    · exact ⟨_, rfl⟩
    · simp at count

theorem decode_table_eq_ok_iff {members : List (String × Value)}
    (distinct : (members.map Prod.fst).Nodup) {policy : Policy} :
    decode (.table members) = .ok policy ↔ policy.members ⊆ members := by
  have others : ((members.filter fun member => member.1 != "kind").map Prod.fst).Nodup :=
    distinct.sublist (List.filter_sublist.map _)
  -- The request is read from what stands beside the kind, and its keys are none of them the kind.
  have beside (request : AuxiliaryRequest) :
      request.members ⊆ members.filter (fun member => member.1 != "kind") ↔
        request.members ⊆ members := by
    have other : ∀ member ∈ request.members, (member.1 != "kind") = true := by
      simp [AuxiliaryRequest.members]
    refine forall₂_congr fun member inside => ?_
    rw [List.mem_filter, other member inside, and_iff_left rfl]
  have requested : (policy.auxiliary.map AuxiliaryRequest.members).getD [] ⊆ members ↔
      ∀ request ∈ policy.auxiliary, request.members ⊆ members := by
    cases policy.auxiliary <;> simp
  have kindly : decode (.table members) = .ok policy ↔
      ∃ value, members.lookup "kind" = some value ∧ ∃ kind, decodeKind value = .ok kind ∧
        ofKind kind (.table (members.filter fun member => member.1 != "kind")) = .ok policy := by
    rw [decode]
    cases members.lookup "kind" <;> simp [bind_eq_ok]
  rw [kindly, Policy.members, List.cons_subset, requested, ← lookup_eq_some_iff_mem distinct]
  simp only [ofKind_table_eq_ok_iff others, beside]
  constructor
  · rintro ⟨value, found, kind, decoded, rfl, asked⟩
    rw [decodeKind_eq_ok_iff.mp decoded] at found
    exact ⟨found, asked⟩
  · rintro ⟨found, asked⟩
    exact ⟨_, found, policy.kind, decodeKind_eq_ok_iff.mpr rfl, rfl, asked⟩

def declared : List String := ["kind", "devices_per_node", "nodes", "bind_reward_model"]

/-- The table has the members of the policy in any order, and others under keys that no policy
has. -/
structure WrittenIn (policy : Policy) (table : List (String × Value)) : Prop where
  distinct : (table.map Prod.fst).Nodup
  members : ∃ extra, (∀ member ∈ extra, member.1 ∉ declared) ∧
    table.Perm (policy.members ++ extra)

def Refused (value : Value) : Prop :=
  (∃ error, decode value = .error error) ∧ ∃ error, decode value.sorted = .error error

def replace (key : String) (value : Value) (table : List (String × Value)) :
    List (String × Value) :=
  table.map fun member => if member.1 = key then (key, value) else member

theorem keys_replace (key : String) (value : Value) (table : List (String × Value)) :
    (replace key value table).map Prod.fst = table.map Prod.fst := by
  rw [replace, List.map_map]
  refine List.map_congr_left fun member _ => ?_
  by_cases here : member.1 = key <;> simp [here]

theorem eq_or_mem_of_mem_replace {key : String} {value : Value} {table : List (String × Value)}
    {member : String × Value} (inside : member ∈ replace key value table) :
    member = (key, value) ∨ member.1 ≠ key ∧ member ∈ table := by
  obtain ⟨former, listed, rfl⟩ := List.mem_map.mp inside
  split
  · exact .inl rfl
  · rename_i other
    exact .inr ⟨other, listed⟩

theorem WrittenIn.subset {policy : Policy} {table : List (String × Value)}
    (written : policy.WrittenIn table) : policy.members ⊆ table := by
  obtain ⟨extra, -, permuted⟩ := written.members
  exact fun member inside => permuted.mem_iff.mpr (List.mem_append_left extra inside)

theorem decode_of_subset {policy : Policy} {table : List (String × Value)}
    (distinct : (table.map Prod.fst).Nodup) (inside : policy.members ⊆ table) :
    decode (.table table) = .ok policy ∧ decode (Value.table table).sorted = .ok policy := by
  have sorted := (Value.subset_sorted_iff distinct policy.plain_members).mpr inside
  exact ⟨(decode_table_eq_ok_iff distinct).mpr inside,
    (decode_table_eq_ok_iff (Value.nodup_sorted table)).mpr sorted⟩

theorem refused_of_not_subset {table : List (String × Value)}
    (distinct : (table.map Prod.fst).Nodup) (none : ∀ policy : Policy, ¬policy.members ⊆ table) :
    Refused (.table table) := by
  refine ⟨exists_error_iff.mpr fun policy decoded => ?_,
    exists_error_iff.mpr fun policy decoded => ?_⟩
  · exact none policy ((decode_table_eq_ok_iff distinct).mp decoded)
  · have inside := (decode_table_eq_ok_iff (Value.nodup_sorted table)).mp decoded
    exact none policy ((Value.subset_sorted_iff distinct policy.plain_members).mp inside)

section Auxiliary

variable {policy other : Policy} {table : List (String × Value)} (written : policy.WrittenIn table)

include written

theorem WrittenIn.keys_eq (asked : policy.auxiliary.isSome)
    (kind : ("kind", Value.string other.kindName) ∈ table) :
    other.members.map Prod.fst = declared := by
  have same : other.kindName = policy.kindName := by
    have here := written.subset List.mem_cons_self
    rw [← lookup_eq_some_iff_mem written.distinct] at kind here
    exact Value.string.inj (Option.some.inj (kind.symm.trans here))
  have kinds : other.kind = policy.kind := by
    have first := mem_kinds_iff.mpr same
    have second := mem_kinds_iff.mpr (Eq.refl other.kindName)
    rw [← lookup_eq_some_iff_mem (by decide)] at first second
    exact Option.some.inj (second.symm.trans first)
  rw [keys_members, if_pos]
  · rfl
  · exact (congrArg Kind.hasAuxiliary kinds).trans asked

theorem WrittenIn.refused_replace (asked : policy.auxiliary.isSome) {key : String}
    (count : key ∈ ["devices_per_node", "nodes"]) {value : Value}
    (outside : ∀ n : Int, value = .integer n → n < 0 ∨ 0xffffffff < n) :
    Refused (.table (replace key value table)) := by
  refine refused_of_not_subset (by rw [keys_replace]; exact written.distinct) ?_
  intro other inside
  -- The kind is not replaced, so the table would have to be one of a request as before.
  have noKind : "kind" ≠ key := by
    rintro rfl
    simp at count
  have kind : ("kind", Value.string other.kindName) ∈ table := by
    rcases eq_or_mem_of_mem_replace (inside List.mem_cons_self) with same | ⟨-, listed⟩
    · exact absurd (congrArg Prod.fst same) noKind
    · exact listed
  have needed : key ∈ other.members.map Prod.fst := by
    have keys : ["devices_per_node", "nodes"] ⊆ declared := by decide
    rw [written.keys_eq asked kind]
    exact keys count
  obtain ⟨⟨name, former⟩, listed, rfl⟩ := List.mem_map.mp needed
  obtain ⟨fits, rfl⟩ := exists_count_of_mem count listed
  rcases eq_or_mem_of_mem_replace (inside listed) with same | ⟨different, -⟩
  · have range := outside fits.toNat (congrArg Prod.snd same).symm
    have high := fits.toNat_lt
    omega
  · exact different rfl

theorem WrittenIn.refused_filter (asked : policy.auxiliary.isSome) {key : String}
    (needed : key ∈ declared) : Refused (.table (table.filter fun member => member.1 != key)) := by
  refine refused_of_not_subset (written.distinct.sublist (List.filter_sublist.map _)) ?_
  intro other inside
  have kind := List.mem_of_mem_filter (inside List.mem_cons_self)
  rw [← written.keys_eq asked kind] at needed
  obtain ⟨member, listed, rfl⟩ := List.mem_map.mp needed
  simpa using (List.mem_filter.mp (inside listed)).2

end Auxiliary

end Policy

theorem Role.readsBack : (Role.decode .json).ReadsBack Role.encode := by
  refine Decoder.readsBack_of_alike (fun _ => .scalar rfl) fun role value alike => ?_
  rw [← alike.eq_of_scalar rfl]
  cases role <;> rfl

theorem Sharing.readsBack : (Sharing.decode .json).ReadsBack Sharing.encode := by
  refine Decoder.readsBack_of_alike (fun _ => .scalar rfl) fun sharing value alike => ?_
  rw [← alike.eq_of_scalar rfl]
  exact Job.Placement.decode_sharing sharing .json

theorem AuxiliaryRequest.readsBack :
    (AuxiliaryRequest.decode .json).ReadsBack AuxiliaryRequest.encode := by
  refine Decoder.readsBack_of_subset AuxiliaryRequest.members ?_ ?_ ?_
  · simp [AuxiliaryRequest.members]
  · simp [AuxiliaryRequest.members, Value.isNested]
  · exact fun request images distinct inside => (decoder_table_eq_ok_iff distinct).mpr inside

theorem PoolNames.readsBack : (PoolNames.decode .json).ReadsBack PoolNames.encode := by
  refine Decoder.readsBack_of_subset PoolNames.members ?_ ?_ ?_
  · simp [PoolNames.members]
  · simp [PoolNames.members, Value.isNested]
  · exact fun names images distinct inside => (decode_table_eq_ok_iff distinct).mpr inside

theorem Policy.readsBack : Policy.decode.ReadsBack Policy.encode := by
  refine Decoder.readsBack_of_subset Policy.members ?_ plain_members ?_
  · intro policy
    rw [keys_members]
    split <;> decide
  · exact fun policy images distinct inside => (decode_table_eq_ok_iff distinct).mpr inside

theorem Job.readsBack : (Job.decode .json).ReadsBack Job.encode := by
  have unambiguous (job : Job) := job.isJson_encode.unambiguous
  refine Decoder.readsBack_of_alike unambiguous fun job value alike => ?_
  have corresponds : value.Corresponds .json .json job.encode.sorted :=
    ⟨alike.unambiguous (unambiguous job), alike.symm.trans (unambiguous job).alike_sorted, .inl rfl⟩
  exact (Job.matches_decode corresponds (.inl rfl) job).mpr job.ofJson_encode

theorem codecs_read_back :
    (Role.decode .json).ReadsBack Role.encode ∧
    (Sharing.decode .json).ReadsBack Sharing.encode ∧
    (AuxiliaryRequest.decode .json).ReadsBack AuxiliaryRequest.encode ∧
    Policy.decode.ReadsBack Policy.encode ∧
    (PoolNames.decode .json).ReadsBack PoolNames.encode ∧
    (Job.decode .json).ReadsBack Job.encode ∧
    ∀ (policy : Policy) (table : List (String × Value)), policy.WrittenIn table →
      Policy.decode (.table table) = .ok policy ∧
      Policy.decode (Value.table table).sorted = .ok policy ∧
      (policy.auxiliary.isSome →
        (∀ key ∈ ["devices_per_node", "nodes"], ∀ value : Value,
          (∀ n : Int, value = .integer n → n < 0 ∨ 0xffffffff < n) →
          Policy.Refused (.table (Policy.replace key value table))) ∧
        ∀ key ∈ Policy.declared,
          Policy.Refused (.table (table.filter fun member => member.1 != key))) := by
  refine ⟨Role.readsBack, Sharing.readsBack, AuxiliaryRequest.readsBack, Policy.readsBack,
    PoolNames.readsBack, Job.readsBack, fun policy table written => ?_⟩
  obtain ⟨read, sorted⟩ := Policy.decode_of_subset written.distinct written.subset
  exact ⟨read, sorted, fun asked =>
    ⟨fun key count value outside => written.refused_replace asked count outside,
      fun key needed => written.refused_filter asked needed⟩⟩

def Policy.largest : Policy := ⟨.split, some ⟨4294967295, 4294967295, false⟩⟩

def Policy.scattered : List (String × Value) :=
  (Policy.largest.members ++ [("note", Value.null)]).reverse

theorem codecs_read_back_scattered :
    Policy.decode (.table Policy.scattered) = .ok .largest ∧
    Policy.Refused (.table (Policy.replace "nodes" (.integer 4294967296) Policy.scattered)) ∧
    Policy.Refused (.table (Policy.scattered.filter fun member => member.1 != "kind")) := by
  obtain ⟨-, -, -, -, -, -, written⟩ := codecs_read_back
  have spelled : Policy.largest.WrittenIn Policy.scattered :=
    ⟨by decide, [("note", .null)], by decide, List.reverse_perm _⟩
  obtain ⟨read, -, refused⟩ := written _ _ spelled
  obtain ⟨counts, keys⟩ := refused rfl
  have outside : ∀ n : Int, Value.integer 4294967296 = .integer n → n < 0 ∨ 0xffffffff < n := by
    rintro n ⟨⟩
    decide
  exact ⟨read, counts "nodes" (by decide) _ outside, keys "kind" (by decide)⟩

end DevicePlan
