import DevicePlan.Proofs.Document.Member
import DevicePlan.Proofs.Document.Order

/-!
# Decoders that agree

Two decoders match on two values if the one reads from the first what the other reads from the
second. The values correspond (`Value.Corresponds`) if they are alike, and, where the decoders are
for different formats, have nothing but what both formats write in the same way. A record matches on
such values as soon as its fields do (`Fields.matches_decoder`): which member was visited first has
a bearing only on which fault is found.
-/

namespace DevicePlan

variable {α β : Type}

namespace Value

inductive IsPlain : Value → Prop where
  | boolean (value : Bool) : IsPlain (.boolean value)
  | string (value : String) : IsPlain (.string value)
  | integer {value : Int} (low : -0x8000000000000000 ≤ value) (high : value ≤ 0x7fffffffffffffff) :
    IsPlain (.integer value)
  | table {members : List (String × Value)} (distinct : (members.map Prod.fst).Nodup)
    (each : ∀ member ∈ members, IsPlain member.2) : IsPlain (.table members)

theorem IsPlain.isJson {value : Value} (plain : value.IsPlain) : value.IsJson := by
  induction plain with
  | boolean value => exact .boolean value
  | string value => exact .string value
  | integer _ _ => exact .integer _
  | table distinct _ each => exact .table distinct each

theorem IsPlain.member {members : List (String × Value)} (plain : (Value.table members).IsPlain)
    {key : String} {value : Value} (found : members.lookup key = some value) : value.IsPlain := by
  cases plain with
  | table distinct each => exact each (key, value) ((lookup_eq_some_iff_mem distinct).mp found)

/-- The same tree, read in these formats. -/
structure Corresponds (format other : Format) (value image : Value) : Prop where
  unambiguous : value.Unambiguous
  alike : value.Alike image
  plain : format = other ∨ value.IsPlain

theorem Corresponds.lookup {format other : Format} {members images : List (String × Value)}
    (corresponds : (Value.table members).Corresponds format other (.table images)) (key : String) :
    Option.Rel (Corresponds format other) (members.lookup key) (images.lookup key) := by
  have related := corresponds.alike.lookup key
  generalize former : members.lookup key = value, images.lookup key = image at related ⊢
  cases related with
  | none => exact .none
  | some alike =>
    exact .some ⟨corresponds.unambiguous.member former, alike,
      corresponds.plain.imp_right fun plain => plain.member former⟩

section Corresponds

variable {format other : Format} {value image : Value}

theorem IsPlain.elements? (plain : value.IsPlain) : value.elements? = none := by
  cases plain <;> rfl

theorem Corresponds.members (corresponds : value.Corresponds format other image) :
    Option.Rel (fun members images => (members.map Prod.fst).Nodup ∧ (images.map Prod.fst).Nodup ∧
      ∀ key, Option.Rel (Corresponds format other) (members.lookup key) (images.lookup key))
      value.members? image.members? := by
  have imaged := corresponds.alike.unambiguous corresponds.unambiguous
  cases corresponds.alike with
  | scalar plain =>
    cases value with
    | moment time =>
      refine .some ⟨List.nodup_singleton _, List.nodup_singleton _, fun key => ?_⟩
      rw [lookup_cons_eq_ite]
      split
      · exact .some ⟨.scalar rfl, .scalar rfl, .inr (.string _)⟩
      · exact .none
    | array _ | tables _ | table _ => cases plain
    | _ => exact .none
  | list listed imaged =>
    rw [members?_of_elements listed, members?_of_elements imaged]
    exact .none
  | table keys each =>
    exact .some ⟨corresponds.unambiguous.distinct, imaged.distinct, corresponds.lookup⟩

theorem Corresponds.elements (corresponds : value.Corresponds format other image) :
    Option.Rel (fun elements images => List.Forall₂ (Corresponds format other) elements images ∧
      format = other) value.elements? image.elements? := by
  cases alike : corresponds.alike with
  | scalar plain =>
    cases value with
    | array _ | tables _ | table _ => cases plain
    | _ => exact .none
  | list listed imaged =>
    -- Lists are read in different ways, and a plain value has none.
    have same : format = other := corresponds.plain.resolve_right fun plain => by
      rw [plain.elements?] at listed
      cases listed
    obtain ⟨length, each⟩ := List.forall₂_iff_get.mp (corresponds.alike.elements listed imaged)
    rw [listed, imaged]
    refine .some ⟨List.forall₂_iff_get.mpr ⟨length, fun index here there => ?_⟩, same⟩
    exact ⟨corresponds.unambiguous.element listed (List.get_mem _ _), each index here there,
      .inl same⟩
  | table keys each => exact .none

end Corresponds

end Value

namespace Decoder

def Matches (decoder other : Decoder α) (value image : Value) : Prop :=
  ∀ result, decoder value = .ok result ↔ other image = .ok result

variable {decoder other : Decoder α} {value image : Value}

theorem matches_of_scalar (plain : ∀ value result, decoder value = .ok result →
      value.isNested = false) (alike : value.Alike image) :
    decoder.Matches decoder value image := by
  intro result
  cases nested : value.isNested with
  | false => rw [alike.eq_of_scalar nested]
  | true =>
    have imaged : image.isNested = true := alike.isNested_eq ▸ nested
    constructor
    · intro decoded
      rw [plain value result decoded] at nested
      cases nested
    · intro decoded
      rw [plain image result decoded] at imaged
      cases imaged

theorem matches_boolean (alike : value.Alike image) : boolean.Matches boolean value image :=
  matches_of_scalar (fun _ _ decoded => by rw [boolean_eq_ok_iff.mp decoded]; rfl) alike

theorem matches_string (alike : value.Alike image) : string.Matches string value image :=
  matches_of_scalar (fun _ _ decoded => by rw [string_eq_ok_iff.mp decoded]; rfl) alike

theorem matches_int64 (alike : value.Alike image) : int64.Matches int64 value image :=
  matches_of_scalar (fun _ _ decoded => by rw [int64_eq_ok_iff.mp decoded]; rfl) alike

theorem matches_nullable (matched : decoder.Matches other value image)
    (alike : value.Alike image) : (nullable decoder).Matches (nullable other) value image := by
  intro result
  by_cases null : value = .null
  · subst null
    rw [← alike.eq_of_scalar rfl]
    rfl
  · have imaged : image ≠ .null := by
      rintro rfl
      exact null (alike.eq_of_scalar alike.isNested_eq)
    rw [nullable_of_ne_null null, nullable_of_ne_null imaged, map_eq_ok_iff, map_eq_ok_iff]
    exact exists_congr fun value => and_congr_left' (matched value)

theorem matches_mapOf (each : ∀ value image : Value, value.Alike image →
      decoder.Matches decoder value image) (unambiguous : value.Unambiguous)
    (alike : value.Alike image) : (mapOf decoder).Matches (mapOf decoder) value image := by
  intro map
  have imaged := alike.unambiguous unambiguous
  cases alike with
  | scalar _ => rfl
  | list listed imaged =>
    simp [mapOf, Value.members?_of_elements listed, Value.members?_of_elements imaged, mismatch]
  | @table members images keys alike =>
    rw [mapOf_eq_ok_iff unambiguous.distinct, mapOf_eq_ok_iff imaged.distinct]
    refine forall_congr' fun key => ?_
    have related := (Value.Alike.table keys alike).lookup key
    generalize members.lookup key = found, images.lookup key = image at related
    cases related with
    | none => rfl
    | some alike =>
      cases map.get? key with
      | none => simp
      | some result => simp [each _ _ alike result]

section Choices

theorem emptyPayload_of_alike {format : Format} (alike : value.Alike image)
    (empty : emptyPayload format value = .ok ()) : emptyPayload format image = .ok () := by
  cases format with
  | json =>
    rw [emptyPayload_json_eq_ok_iff] at empty ⊢
    rw [← alike.eq_of_scalar (by rw [empty]; rfl), empty]
  | toml =>
    rw [emptyPayload_toml_eq_ok_iff] at empty ⊢
    cases alike with
    | scalar _ => exact empty
    | list listed imaged length =>
      rcases empty with rfl | rfl | none
      · cases listed
      · cases listed
      · rw [listed, Option.some.injEq] at none
        rw [none] at length
        rw [imaged, List.length_eq_zero_iff.mp length.symm]
        exact .inr (.inr rfl)
    | table keys =>
      rcases empty with null | none | list
      · cases null
      · cases none
        rw [List.map_eq_nil_iff.mp (List.nil_perm.mp keys)]
        exact .inr (.inl rfl)
      · cases list

theorem choice_of_alike {format : Format} {choices : List (String × α)} {result : α}
    (alike : value.Alike image) (chosen : choice format choices value = .ok result) :
    choice format choices image = .ok result := by
  rw [choice_eq_ok_iff] at chosen ⊢
  obtain ⟨name, listed, rfl | ⟨payload, rfl, empty⟩⟩ := chosen
  · exact ⟨name, listed, .inl (alike.eq_of_scalar rfl).symm⟩
  · obtain ⟨other, rfl, inside⟩ := alike.eq_single
    exact ⟨name, listed, .inr ⟨other, rfl, emptyPayload_of_alike inside empty⟩⟩

theorem matches_choice (format : Format) (choices : List (String × α))
    (alike : value.Alike image) :
    (choice format choices).Matches (choice format choices) value image :=
  fun _ => ⟨choice_of_alike alike, choice_of_alike alike.symm⟩

theorem matches_choice_of_ne_table (format other : Format) (choices : List (String × α))
    (alike : value.Alike image) (noTable : ∀ members, value ≠ .table members) :
    (choice format choices).Matches (choice other choices) value image := by
  intro result
  have imaged : ∀ members, image ≠ .table members := by
    rintro members rfl
    cases alike with
    | scalar plain => cases plain
    | list listed imaged => cases imaged
    | table keys each => exact noTable _ rfl
  have same (name : String) : value = .string name ↔ image = .string name := by
    constructor
    · rintro rfl
      exact (alike.eq_of_scalar rfl).symm
    · rintro rfl
      exact (alike.symm.eq_of_scalar rfl).symm
  simp only [choice_eq_ok_iff, noTable, imaged, same, false_and, exists_false, or_false]

end Choices

end Decoder

structure Source.Corresponds (format other : Format) (source image : Source) : Prop where
  sparse : source.sparse = image.sparse
  entries : ∀ key, Option.Rel (Value.Corresponds format other) (source.entries.lookup key)
    (image.entries.lookup key)

namespace Fields

def Matches (fields other : Fields α) (source image : Source) : Prop :=
  ∀ result, fields.build source = .ok result ↔ other.build image = .ok result

section Build

variable {format otherFormat : Format} {source image : Source}

theorem Matches.seq {fields otherFields : Fields (α → β)} {last otherLast : Fields α}
    (first : fields.Matches otherFields source image)
    (second : last.Matches otherLast source image) :
    (fields <*> last).Matches (otherFields <*> otherLast) source image := by
  intro result
  simp only [seq_build_eq_ok_iff, first _, second _]

theorem Matches.map {fields other : Fields α} (matched : fields.Matches other source image)
    (make : α → β) : (make <$> fields).Matches (make <$> other) source image := by
  intro result
  simp only [map_build_eq_ok_iff, matched _]

variable (corresponds : source.Corresponds format otherFormat image) (name : String)

include corresponds

theorem matches_single {decoder other : Decoder α}
    {absent otherAbsent : Source → Except DecodeError α}
    {checks otherChecks : List FieldCheck}
    (missing : ∀ result, absent source = .ok result ↔ otherAbsent image = .ok result)
    (each : ∀ value image, source.entries.lookup name = some value →
      value.Corresponds format otherFormat image → decoder.Matches other value image) :
    Matches
      ⟨checks, fun source =>
        match source.entries.lookup name with
        | some value => decoder value
        | none => absent source⟩
      ⟨otherChecks, fun source =>
        match source.entries.lookup name with
        | some value => other value
        | none => otherAbsent source⟩ source image := by
  intro result
  have related := corresponds.entries name
  generalize found : source.entries.lookup name = value, imaged : image.entries.lookup name = other
    at related
  cases related with
  | none => simp only [found, imaged, missing]
  | some matched => simpa only [found, imaged] using each _ _ found matched result

variable {decoder other : Decoder α} (each : ∀ value image,
  source.entries.lookup name = some value → value.Corresponds format otherFormat image →
    decoder.Matches other value image)

include each

theorem matches_required :
    (required name decoder).Matches (required name other) source image :=
  matches_single corresponds name (by simp) each

theorem matches_defaulted (standard : α) :
    (defaulted name decoder standard).Matches (defaulted name other standard) source image :=
  matches_single corresponds name (by simp) each

theorem matches_optional :
    (optional name decoder).Matches (optional name other) source image := by
  refine matches_single corresponds name ?_ fun value image found matched =>
    Decoder.matches_nullable (each value image found matched) matched.alike
  intro result
  rw [corresponds.sparse]
  cases image.sparse <;> simp

end Build

def elementSource (fields : Fields α) (title : String) (elements : List Value) : Source :=
  ⟨fields.names.zip elements, fun name => .wrongLength (fields.names.idxOf name)
    s!"struct {title} with {fields.names.length} elements", false⟩

theorem ofElements_eq_ok_iff {fields : Fields α} {title : String} {excess : Excess}
    {elements : List Value} {result : α} : fields.ofElements title excess elements = .ok result ↔
      fields.build (fields.elementSource title elements) = .ok result ∧
        (excess = .ignored ∨ elements.length ≤ fields.names.length) := by
  rw [ofElements, bind_eq_ok, elementSource]
  cases excess with
  | ignored => simp [pure_eq_ok]
  | refused | refusedByCount =>
    by_cases spare : fields.names.length < elements.length
    · simp [spare, Nat.not_le.mpr spare]
    · simp [spare, Nat.not_lt.mp spare, pure_eq_ok]

theorem zip_keyed {relates : Value → Value → Prop} (names : List String)
    {elements images : List Value} (related : List.Forall₂ relates elements images) :
    List.Forall₂ (Keyed relates) (names.zip elements) (names.zip images) := by
  induction related generalizing names with
  | nil => simp
  | cons here _ ih =>
    cases names with
    | nil => simp
    | cons name names => exact .cons ⟨rfl, here⟩ (ih names)

theorem matches_decoder {format otherFormat : Format} {fields other : Fields α} {title : String}
    (covers : fields.Covers) (otherCovers : other.Covers) (names : fields.names = other.names)
    {value image : Value} (corresponds : value.Corresponds format otherFormat image)
    (builds : ∀ source imaged : Source, source.Corresponds format otherFormat imaged →
      (format = otherFormat ∨ value = .table source.entries) →
        fields.Matches other source imaged) :
    (fields.decoder title format.excess).Matches (other.decoder title otherFormat.excess) value
      image := by
  intro result
  have tables := corresponds.members
  have lists := corresponds.elements
  generalize here : value.members? = members, there : image.members? = images at tables
  generalize listed : value.elements? = elements, imaged : image.elements? = others at lists
  simp only [decoder, here, there, listed, imaged]
  cases tables with
  | @some members images related =>
    obtain ⟨distinct, otherDistinct, related⟩ := related
    simp only [ofMembers_eq_ok_iff covers distinct, ofMembers_eq_ok_iff otherCovers otherDistinct]
    refine builds ⟨members, .missingField, true⟩ ⟨images, .missingField, true⟩ ⟨rfl, related⟩ ?_
      result
    refine corresponds.plain.imp_right fun plain => ?_
    cases plain with
    | table _ _ => exact congrArg Value.table (Option.some.inj here)
    | _ => cases here
  | none =>
    cases lists with
    | none => simp [Decoder.mismatch]
    | some related =>
      -- Only one format is left here: a plain value has no elements.
      obtain ⟨related, rfl⟩ := related
      simp only [ofElements_eq_ok_iff, related.length_eq, ← names]
      refine and_congr_left' (builds (fields.elementSource title _) (other.elementSource title _)
        ⟨rfl, ?_⟩ (.inl rfl) result)
      simp only [elementSource, ← names]
      exact lookup_of_forall₂ (zip_keyed fields.names related)

end Fields

end DevicePlan
