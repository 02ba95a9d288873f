import DevicePlan.Document.Decode
import DevicePlan.Outcome

namespace DevicePlan

namespace Fields

variable {α β : Type}

section

variable {source : Source} {name : String} {decoder : Decoder α}

theorem seq_build_eq_ok_iff {first : Fields (α → β)} {second : Fields α} {result : β} :
    (first <*> second).build source = .ok result ↔
      ∃ make, first.build source = .ok make ∧
        ∃ value, second.build source = .ok value ∧ make value = result := by
  change (first.build source >>= fun make => second.build source >>= fun value =>
    pure (make value)) = .ok result ↔ _
  simp only [bind_eq_ok, pure, Except.pure, Except.ok.injEq]

theorem map_build_eq_ok_iff {make : α → β} {fields : Fields α} {result : β} :
    (make <$> fields).build source = .ok result ↔
      ∃ value, fields.build source = .ok value ∧ make value = result := by
  change ((pure make : Fields (α → β)) <*> fields).build source = .ok result ↔ _
  rw [seq_build_eq_ok_iff]
  simp [pure]

theorem required_build_eq_ok_iff {result : α} :
    (required name decoder).build source = .ok result ↔
      ∃ value, source.entries.lookup name = some value ∧ decoder value = .ok result := by
  cases found : source.entries.lookup name <;> simp [required, found]

theorem optional_build_map {encode : α → Value} {value : Option α}
    (found : source.entries.lookup name = value.map encode) (sparse : source.sparse = true)
    (reads : ∀ value, Decoder.nullable decoder (encode value) = .ok (some value)) :
    (optional name decoder).build source = .ok value := by
  cases value with
  | none => simp [optional, found, sparse]
  | some value => simp [optional, found, reads]

theorem defaulted_build_eq_ok_iff {standard result : α} :
    (defaulted name decoder standard).build source = .ok result ↔
      (∃ value, source.entries.lookup name = some value ∧ decoder value = .ok result) ∨
      source.entries.lookup name = none ∧ result = standard := by
  cases found : source.entries.lookup name <;> simp [defaulted, found, eq_comm]

end

/-- Whatever a record is built from has passed the check of its field. -/
def Covers (fields : Fields α) : Prop :=
  ∀ source result, fields.build source = .ok result → ∀ field ∈ fields.checks, ∀ value,
    source.entries.lookup field.name = some value → field.check value = .ok ()

theorem covers_single (name : String) (decoder : Decoder α)
    (absent : Source → Except DecodeError α) :
    Covers ⟨[⟨name, checkOf decoder⟩], fun source =>
      match source.entries.lookup name with
      | some value => decoder value
      | none => absent source⟩ := by
  intro source result built field listed value found
  rw [List.mem_singleton] at listed
  subst listed
  simp only [found] at built
  simp [checkOf, built, Except.map]

theorem covers_required (name : String) (decoder : Decoder α) :
    (required name decoder).Covers := by
  exact covers_single name decoder fun source => .error (source.missing name)

theorem covers_optional (name : String) (decoder : Decoder α) :
    (optional name decoder).Covers := by
  exact covers_single name (Decoder.nullable decoder) fun source =>
    if source.sparse then .ok none else .error (source.missing name)

theorem covers_defaulted (name : String) (decoder : Decoder α) (standard : α) :
    (defaulted name decoder standard).Covers := by
  exact covers_single name decoder fun _ => .ok standard

theorem Covers.seq {first : Fields (α → β)} {second : Fields α} (covers : first.Covers)
    (later : second.Covers) : (first <*> second).Covers := by
  intro source result built field listed value found
  obtain ⟨make, made, argument, decoded, -⟩ := seq_build_eq_ok_iff.mp built
  rcases List.mem_append.mp listed with listed | listed
  · exact covers source make made field listed value found
  · exact later source argument decoded field listed value found

theorem Covers.map {fields : Fields α} (covers : fields.Covers) (make : α → β) :
    (make <$> fields).Covers := by
  intro source result built field listed value found
  obtain ⟨argument, decoded, -⟩ := map_build_eq_ok_iff.mp built
  exact covers source argument decoded field listed value found

theorem checkMembers_eq_ok_iff {fields : Fields α} {members : List (String × Value)} :
    fields.checkMembers members = .ok () ↔ ∀ member ∈ members, ∀ field,
      fields.checks.find? (fun field => field.name == member.1) = some field →
        field.check member.2 = .ok () := by
  induction members with
  | nil => simp [checkMembers]
  | cons member members ih =>
    rw [checkMembers]
    cases found : fields.checks.find? (fun field => field.name == member.1) with
    | none => simp [found, ih, bind, Except.bind]
    | some field =>
      cases checked : field.check member.2 <;> simp [found, checked, ih, bind, Except.bind]

theorem ofMembers_eq_ok_iff {fields : Fields α} (covers : fields.Covers)
    {members : List (String × Value)} (distinct : (members.map Prod.fst).Nodup) {result : α} :
    fields.ofMembers members = .ok result ↔
      fields.build ⟨members, .missingField, true⟩ = .ok result := by
  rw [ofMembers, bind_eq_ok]
  constructor
  · rintro ⟨-, -, built⟩
    exact built
  · intro built
    refine ⟨(), checkMembers_eq_ok_iff.mpr ?_, built⟩
    intro member inside field found
    have listed := List.mem_of_find?_eq_some found
    have named : field.name = member.1 := by
      simpa using List.find?_some found
    apply covers _ _ built field listed
    rw [named]
    exact (lookup_eq_some_iff_mem distinct).mpr inside

end Fields

namespace Decoder

theorem mapOf_map {α : Type} {decoder : Decoder α} {encode : α → Value}
    (reads : ∀ value, decoder (encode value) = .ok value) (entries : List (String × α)) :
    mapOf decoder (.table (entries.map fun entry => (entry.1, encode entry.2))) =
      .ok (.ofList entries) := by
  have decoded : (entries.map fun entry => (entry.1, encode entry.2)).mapM
      (fun entry => do
        let value ← decoder entry.2
        return (entry.1, value)) = .ok entries := by
    induction entries with
    | nil => rfl
    | cons entry entries ih =>
      simp only [List.map_cons, List.mapM_cons, reads, ih]
      rfl
  simp only [mapOf, Value.members?]
  rw [decoded]
  rfl

theorem int64_toInt (n : Int64) : int64 (.integer n.toInt) = .ok n := by
  have low := n.le_toInt
  have high := n.toInt_lt
  rw [int64, integerIn, if_pos (by omega), Int64.ofInt_toInt]

end Decoder

end DevicePlan
