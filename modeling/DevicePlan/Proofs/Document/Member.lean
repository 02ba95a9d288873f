import DevicePlan.Proofs.Document.Decode
import DevicePlan.Proofs.Document.Sorted

namespace DevicePlan

variable {α β : Type}

def Value.count (n : Int64) : Value := .integer n.toInt

def Spells (encode : α → Value) (value : Value) (result : α) : Prop :=
  value = encode result

def IsObject (means : List (String × Value) → α → Prop) (value : Value) (result : α) : Prop :=
  ∃ members, value = .table members ∧ means members result

def Given (means : Value → α → Prop) (member : Option Value) (result : α) : Prop :=
  ∃ value, member = some value ∧ means value result

def GivenOr (means : Value → α → Prop) (standard : α) (member : Option Value) (result : α) : Prop :=
  Given means member result ∨ member = none ∧ result = standard

def GivenOrNull (means : Value → α → Prop) (member : Option Value) : Option α → Prop
  | none => member = none ∨ member = some .null
  | some result => Given means member result

section Existence

variable {means : Value → α → Prop} {standard : α} {member : Option Value}

end Existence

def Keyed (relates : α → β → Prop) (entry : String × α) (image : String × β) : Prop :=
  entry.1 = image.1 ∧ relates entry.2 image.2

section Keyed

variable {relates : α → β → Prop} {entries : List (String × α)} {images : List (String × β)}

theorem keys_of_forall₂ (related : List.Forall₂ (Keyed relates) entries images) :
    entries.map Prod.fst = images.map Prod.fst := by
  rw [← List.forall₂_eq_eq_eq, List.forall₂_map_left_iff, List.forall₂_map_right_iff]
  exact related.imp fun _ _ => And.left

theorem lookup_of_forall₂ (related : List.Forall₂ (Keyed relates) entries images) (key : String) :
    Option.Rel relates (entries.lookup key) (images.lookup key) := by
  induction related with
  | nil => exact .none
  | cons here _ ih =>
    rw [lookup_cons_eq_ite, lookup_cons_eq_ite, ← here.1]
    split
    · exact .some here.2
    · exact ih

theorem exists_forall₂ (each : ∀ entry ∈ entries, ∃ result, relates entry.2 result) :
    ∃ images, List.Forall₂ (Keyed relates) entries images := by
  induction entries with
  | nil => exact ⟨[], .nil⟩
  | cons entry entries ih =>
    rw [List.forall_mem_cons] at each
    obtain ⟨result, here⟩ := each.1
    obtain ⟨images, later⟩ := ih each.2
    exact ⟨(entry.1, result) :: images, .cons ⟨rfl, here⟩ later⟩

end Keyed

/-- The decoder reads from the value, once this is sorted, what it means. -/
def Decoder.Reads (decoder : Decoder α) (means : Value → α → Prop) (value : Value) : Prop :=
  ∀ result, decoder value.sorted = .ok result ↔ means value result

namespace Decoder

theorem reads_scalar {decoder : Decoder α} {encode : α → Value}
    (exactly : ∀ value result, decoder value = .ok result ↔ value = encode result)
    (plain : ∀ result, (encode result).isNested = false) (value : Value) :
    decoder.Reads (Spells encode) value := by
  intro result
  rw [exactly, Value.sorted_eq_iff (plain result), Spells]

theorem boolean_eq_ok_iff {value : Value} {result : Bool} :
    boolean value = .ok result ↔ value = .boolean result := by
  cases value <;> simp [boolean, mismatch]

theorem string_eq_ok_iff {value : Value} {result : String} :
    string value = .ok result ↔ value = .string result := by
  cases value <;> simp [string, mismatch]

theorem int64_eq_ok_iff {value : Value} {result : Int64} :
    int64 value = .ok result ↔ value = .integer result.toInt := by
  constructor
  · intro decoded
    cases value with
    | integer n =>
      simp only [int64, integerIn] at decoded
      split at decoded
      · rename_i fits
        cases decoded
        rw [Int64.toInt_ofInt_of_le (by omega) (by omega)]
      · cases decoded
    | _ => cases decoded
  · rintro rfl
    exact int64_toInt result

theorem reads_boolean (value : Value) : boolean.Reads (Spells .boolean) value :=
  reads_scalar (fun _ _ => boolean_eq_ok_iff) (fun _ => rfl) value

theorem reads_string (value : Value) : string.Reads (Spells .string) value :=
  reads_scalar (fun _ _ => string_eq_ok_iff) (fun _ => rfl) value

theorem reads_int64 (value : Value) : int64.Reads (Spells .count) value :=
  reads_scalar (fun _ _ => int64_eq_ok_iff) (fun _ => rfl) value

theorem named_eq_ok_iff {choices : List (String × α)} {name : String} {result : α} :
    named choices name = .ok result ↔ choices.lookup name = some result := by
  unfold named
  cases choices.lookup name <;> simp

theorem emptyPayload_json_eq_ok_iff {payload : Value} {result : Unit} :
    emptyPayload .json payload = .ok result ↔ payload = .null := by
  cases payload <;> simp [emptyPayload, mismatch]

theorem emptyPayload_toml_eq_ok_iff {payload : Value} : emptyPayload .toml payload = .ok () ↔
    payload = .null ∨ payload = .table [] ∨ payload.elements? = some [] := by
  cases payload with
  | array elements | tables elements | table elements =>
    cases elements <;> simp [emptyPayload, Value.elements?]
  | _ => simp [emptyPayload, Value.elements?]

theorem choice_eq_ok_iff {format : Format} {choices : List (String × α)} {value : Value}
    {result : α} : choice format choices value = .ok result ↔
      ∃ name, choices.lookup name = some result ∧ (value = .string name ∨
        ∃ payload, value = .table [(name, payload)] ∧ emptyPayload format payload = .ok ()) := by
  cases value with
  | string name => simp [choice, named_eq_ok_iff]
  | table members =>
    obtain _ | ⟨⟨name, payload⟩, _ | ⟨second, more⟩⟩ := members
    · cases format <;> simp [choice]
    · simp only [choice, bind_eq_ok, pure_eq_ok, named_eq_ok_iff]
      simp [and_comm, Unique.exists_iff]
    · cases format <;> simp [choice]
  | _ => cases format <;> simp [choice, mismatch]

theorem choice_json_eq_ok_iff {choices : List (String × α)} {value : Value} {result : α} :
    choice .json choices value = .ok result ↔ ∃ name, choices.lookup name = some result ∧
      (value = .string name ∨ value = .table [(name, .null)]) := by
  simp only [choice_eq_ok_iff, emptyPayload_json_eq_ok_iff, exists_eq_right]

theorem reads_choice (choices : List (String × α)) {value : Value} (json : value.IsJson) :
    (choice .json choices).Reads (fun value result => ∃ name,
      choices.lookup name = some result ∧
        (value = .string name ∨ value = .table [(name, .null)])) value := by
  intro result
  rw [choice_json_eq_ok_iff]
  refine exists_congr fun name => and_congr_right fun _ => or_congr ?_ ?_
  · exact Value.sorted_eq_iff rfl
  · exact json.sorted_eq_single_iff rfl

theorem nullable_of_ne_null {decoder : Decoder α} {value : Value} (given : value ≠ .null) :
    nullable decoder value = (decoder value).map some := by
  unfold nullable
  split
  · contradiction
  · rfl

theorem map_eq_ok_iff {ε : Type} {outcome : Except ε α} {f : α → β} {result : β} :
    outcome.map f = .ok result ↔ ∃ value, outcome = .ok value ∧ f value = result := by
  cases outcome <;> simp [Except.map]

theorem reads_nullable {decoder : Decoder α} {means : Value → α → Prop} {value : Value}
    (reads : decoder.Reads means value) (notNull : ∀ result, ¬means .null result) :
    (nullable decoder).Reads (fun value => GivenOrNull means (some value)) value := by
  intro result
  by_cases null : value = .null
  · subst null
    cases result with
    | none => simp [nullable, Value.sorted, GivenOrNull]
    | some result => simp [nullable, Value.sorted, GivenOrNull, Given, notNull]
  · have sorted : value.sorted ≠ .null := (Value.sorted_eq_iff rfl).not.mpr null
    rw [nullable_of_ne_null sorted, map_eq_ok_iff]
    cases result with
    | none => simp [GivenOrNull, null]
    | some result => simp [GivenOrNull, Given, reads result]

section Maps

variable {decoder : Decoder α} {encode : α → Value}

abbrev Yields (decoder : Decoder α) (value : Value) (result : α) : Prop :=
  decoder value = .ok result

theorem mapM_eq_ok_iff {entries : List (String × Value)} {results : List (String × α)} :
    (entries.mapM fun entry => do
      let value ← decoder entry.2
      return (entry.1, value)) = .ok results ↔
    List.Forall₂ (Keyed decoder.Yields) entries results := by
  induction entries generalizing results with
  | nil => cases results <;> simp [pure_eq_ok]
  | cons entry entries ih =>
    simp only [List.mapM_cons, bind_eq_ok, pure_eq_ok, ih, List.forall₂_cons_left_iff]
    constructor
    · rintro ⟨result, ⟨value, decoded, rfl⟩, later, related, rfl⟩
      exact ⟨_, _, ⟨rfl, decoded⟩, related, rfl⟩
    · rintro ⟨⟨key, value⟩, later, ⟨rfl, decoded⟩, related, rfl⟩
      exact ⟨_, ⟨value, decoded, rfl⟩, later, related, rfl⟩

theorem mapOf_eq_ok_iff {members : List (String × Value)}
    (distinct : (members.map Prod.fst).Nodup) {map : NameMap α} :
    mapOf decoder (.table members) = .ok map ↔
      ∀ key, Option.Rel decoder.Yields (members.lookup key) (map.get? key) := by
  have reads {results : List (String × α)}
      (related : List.Forall₂ (Keyed decoder.Yields) members results) (key : String) :
      Option.Rel decoder.Yields (members.lookup key) ((NameMap.ofList results).get? key) := by
    rw [NameMap.get?_ofList, lookup_reverse (keys_of_forall₂ related ▸ distinct)]
    exact lookup_of_forall₂ related key
  simp only [mapOf, Value.members?, bind_eq_ok, pure_eq_ok, mapM_eq_ok_iff]
  constructor
  · rintro ⟨results, related, rfl⟩
    exact reads related
  · intro relates
    have each : ∀ member ∈ members, ∃ result, decoder member.2 = .ok result := by
      intro member inside
      have found := relates member.1
      rw [(lookup_eq_some_iff_mem distinct).mpr inside] at found
      generalize map.get? member.1 = result at found
      cases found with
      | some decoded => exact ⟨_, decoded⟩
    obtain ⟨results, related⟩ : ∃ results, List.Forall₂ (Keyed decoder.Yields) members results :=
      exists_forall₂ each
    refine ⟨results, related, NameMap.ext_get? fun key => ?_⟩
    have first := reads related key
    have second := relates key
    generalize members.lookup key = found, (NameMap.ofList results).get? key = here,
      map.get? key = there at first second ⊢
    cases first with
    | none => cases second; rfl
    | some decoded =>
      cases second with
      | some same => exact congrArg some (Except.ok.inj (decoded.symm.trans same))

theorem rel_yields_iff
    (exactly : ∀ value result, decoder value = .ok result ↔ value = encode result)
    {member : Option Value} {result : Option α} :
    Option.Rel decoder.Yields member result ↔ member = result.map encode := by
  cases member <;> cases result <;> simp [exactly]

theorem reads_mapOf
    (exactly : ∀ value result, decoder value = .ok result ↔ value = encode result)
    (plain : ∀ result, (encode result).isNested = false) {value : Value}
    (json : value.IsJson) :
    (mapOf decoder).Reads (IsObject fun members map =>
      ∀ key, members.lookup key = (map.get? key).map encode) value := by
  intro map
  cases json with
  | table distinct each =>
    rename_i members
    -- Sorting leaves a scalar as it is, so the members can be compared unsorted.
    have sorted (key : String) : (members.lookup key).map Value.sorted =
        (map.get? key).map encode ↔ members.lookup key = (map.get? key).map encode := by
      cases map.get? key with
      | none => simp
      | some result =>
        simp only [Option.map_some, Option.map_eq_some_iff, Value.sorted_eq_iff (plain result),
          exists_eq_right]
    change mapOf decoder (.table (Value.sortedMembers [] members)) = .ok map ↔ _
    simp only [mapOf_eq_ok_iff (Value.nodup_sorted members), rel_yields_iff exactly,
      Value.lookup_sorted distinct, sorted, IsObject, Value.table.injEq, exists_eq_left']
  | _ => simp [mapOf, Value.sorted, Value.members?, mismatch, IsObject]

end Maps

end Decoder

namespace Fields

def sortedSource (members : List (String × Value)) : Source :=
  ⟨Value.sortedMembers [] members, .missingField, true⟩

section

variable {members : List (String × Value)} {name : String} {decoder : Decoder α}
  {means : Value → α → Prop} (distinct : (members.map Prod.fst).Nodup)
  (reads : ∀ value ∈ members.lookup name, decoder.Reads means value)

include distinct reads

theorem required_sorted_eq_ok_iff {result : α} :
    (required name decoder).build (sortedSource members) = .ok result ↔
      Given means (members.lookup name) result := by
  rw [required_build_eq_ok_iff, sortedSource, Value.lookup_sorted distinct]
  cases found : members.lookup name with
  | none => simp [Given]
  | some value => simp [Given, reads value found result]

theorem defaulted_sorted_eq_ok_iff {standard result : α} :
    (defaulted name decoder standard).build (sortedSource members) = .ok result ↔
      GivenOr means standard (members.lookup name) result := by
  rw [defaulted_build_eq_ok_iff, sortedSource, Value.lookup_sorted distinct]
  cases found : members.lookup name with
  | none => simp [GivenOr, Given]
  | some value => simp [GivenOr, Given, reads value found result]

theorem optional_sorted_eq_ok_iff (notNull : ∀ result, ¬means .null result)
    {result : Option α} :
    (optional name decoder).build (sortedSource members) = .ok result ↔
      GivenOrNull means (members.lookup name) result := by
  simp only [optional, sortedSource, Value.lookup_sorted distinct]
  cases found : members.lookup name with
  | none => cases result <;> simp [GivenOrNull, Given]
  | some value => exact Decoder.reads_nullable (reads value found) notNull result

end

theorem reads_decoder {fields : Fields α} (covers : fields.Covers) {title : String}
    {excess : Excess} {value : Value} (json : value.IsJson) (object : value.elements? = none)
    {means : List (String × Value) → α → Prop}
    (builds : ∀ members, value = .table members → ∀ result,
      fields.build (sortedSource members) = .ok result ↔ means members result) :
    (fields.decoder title excess).Reads (IsObject means) value := by
  intro result
  cases json with
  | table distinct each =>
    rename_i members
    change fields.ofMembers (Value.sortedMembers [] members) = .ok result ↔ _
    rw [ofMembers_eq_ok_iff covers (Value.nodup_sorted members)]
    simpa [IsObject, sortedSource] using builds members rfl result
  | array each => cases object
  | _ => simp [decoder, Value.sorted, Value.members?, Value.elements?, Decoder.mismatch, IsObject]

end Fields

end DevicePlan
