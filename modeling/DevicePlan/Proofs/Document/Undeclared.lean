import DevicePlan.Proofs.Document.Order

namespace DevicePlan

variable {α β : Type}

/-- One more member stands somewhere among the others, under a key that is not declared. -/
inductive AddsMember (declared : List String) :
    List (String × Value) → List (String × Value) → Prop where
  | insert (front back : List (String × Value)) {key : String} (value : Value)
    (undeclared : key ∉ declared) :
    AddsMember declared (front ++ back) (front ++ (key, value) :: back)

theorem lookup_append_cons {α : Type} (front back : List (String × α)) (key : String) (value : α)
    (name : String) : (front ++ (key, value) :: back).lookup name =
      (front.lookup name).or (if name = key then some value else back.lookup name) := by
  rw [List.lookup_append, lookup_cons_eq_ite]

theorem lookup_append_cons_of_ne {α : Type} (front back : List (String × α)) {key name : String}
    (value : α) (other : name ≠ key) :
    (front ++ (key, value) :: back).lookup name = (front ++ back).lookup name := by
  rw [lookup_append_cons, if_neg other, List.lookup_append]

theorem optionRel_refl {relates : α → α → Prop} (refl : ∀ value, relates value value)
    (value : Option α) : Option.Rel relates value value := by
  cases value with
  | none => exact .none
  | some value => exact .some (refl value)

theorem exists_insertByName_eq {name : String} {entries : List (String × α)}
    (new : name ∉ entries.map Prod.fst) :
    ∃ front back, entries = front ++ back ∧
      ∀ value, insertByName name value entries = front ++ (name, value) :: back := by
  induction entries with
  | nil => exact ⟨[], [], rfl, fun _ => rfl⟩
  | cons entry entries ih =>
    obtain ⟨differs, later⟩ := List.ne_and_not_mem_of_not_mem_cons new
    by_cases less : name < entry.1
    · exact ⟨[], entry :: entries, rfl, fun value => by simp [insertByName, less]⟩
    · obtain ⟨front, back, rfl, inserted⟩ := ih later
      exact ⟨entry :: front, back, rfl, fun value => by
        simp [insertByName, less, differs, inserted]⟩

namespace Value

theorem exists_sortedMembers_eq {front back : List (String × Value)} {key : String}
    (distinct : (key :: (front ++ back).map Prod.fst).Nodup) :
    ∃ before after, sortedMembers [] (front ++ back) = before ++ after ∧
      ∀ value, sortedMembers [] (front ++ (key, value) :: back) =
        before ++ (key, value.sorted) :: after := by
  obtain ⟨new, others⟩ := List.nodup_cons.mp distinct
  have absent : key ∉ (sortedMembers [] (front ++ back)).map Prod.fst := by
    rw [((perm_sorted others).map Prod.fst).mem_iff, List.map_map]
    exact new
  obtain ⟨before, after, split, inserted⟩ := exists_insertByName_eq absent
  refine ⟨before, after, split, fun value => ?_⟩
  have keys : ((front ++ (key, value) :: back).map Prod.fst).Nodup := by
    rw [List.map_append, List.map_cons, List.nodup_middle, ← List.map_append]
    exact distinct
  -- The table with the member is the map of the others with the member inserted.
  rw [← inserted, sortedMembers_nil, sortedMembers_nil]
  change _ = ((NameMap.ofList _).insert key value.sorted).entries
  refine congrArg NameMap.entries (NameMap.ext_get? fun name => ?_)
  rw [NameMap.get?_insert, get?_sorted keys, get?_sorted others]
  by_cases same : name = key
  · have missing : front.lookup key = none := by
      rw [List.map_append, List.mem_append, not_or] at new
      exact lookup_eq_none_iff_notMem.mpr new.1
    rw [if_pos same, same, lookup_append_cons, missing]
    simp
  · rw [if_neg same, lookup_append_cons_of_ne _ _ _ same]

end Value

theorem AddsMember.sorted {declared : List String} {members larger : List (String × Value)}
    (adds : AddsMember declared members larger) (distinct : (larger.map Prod.fst).Nodup) :
    AddsMember declared (Value.sortedMembers [] members) (Value.sortedMembers [] larger) := by
  cases adds with
  | insert front back value undeclared =>
    rw [List.map_append, List.map_cons, List.nodup_middle, ← List.map_append] at distinct
    obtain ⟨before, after, fewer, more⟩ := Value.exists_sortedMembers_eq distinct
    rw [fewer, more]
    exact .insert before after value.sorted undeclared

namespace Fields

/-- The record is read alike from values that are the same under the keys of its fields. -/
structure Respects (fields : Fields α) (same : String → Value → Value → Prop) : Prop where
  checks : ∀ field ∈ fields.checks, ∀ value image, same field.name value image →
    field.check value = field.check image
  build : ∀ source image : Source, source.missing = image.missing →
    source.sparse = image.sparse → (∀ name ∈ fields.names, Option.Rel (same name)
      (source.entries.lookup name) (image.entries.lookup name)) →
    fields.build source = fields.build image

section Respects

variable {same : String → Value → Value → Prop} {name : String} {decoder : Decoder α}

theorem respects_single {absent : Source → Except DecodeError α}
    (missing : ∀ source image : Source, source.missing = image.missing →
      source.sparse = image.sparse → absent source = absent image)
    (each : ∀ value image, same name value image → decoder value = decoder image) :
    Respects ⟨[⟨name, checkOf decoder⟩], fun source =>
      match source.entries.lookup name with
      | some value => decoder value
      | none => absent source⟩ same where
  checks := by
    intro field listed value image alike
    rw [List.mem_singleton] at listed
    subst listed
    exact congrArg (·.map fun _ => ()) (each value image alike)
  build := by
    intro source image texts sparse related
    have here := related name (by simp [names])
    generalize found : source.entries.lookup name = value,
      imaged : image.entries.lookup name = other at here
    cases here with
    | none => simpa only [found, imaged] using missing source image texts sparse
    | some alike => simpa only [found, imaged] using each _ _ alike

theorem respects_required (each : ∀ value image, same name value image →
    decoder value = decoder image) : (required name decoder).Respects same :=
  respects_single (fun _ _ texts _ => by rw [texts]) each

theorem respects_defaulted (each : ∀ value image, same name value image →
    decoder value = decoder image) (standard : α) :
    (defaulted name decoder standard).Respects same :=
  respects_single (fun _ _ _ _ => rfl) each

theorem respects_optional (each : ∀ value image, same name value image →
    Decoder.nullable decoder value = Decoder.nullable decoder image) :
    (optional name decoder).Respects same :=
  respects_single (fun _ _ texts sparse => by rw [texts, sparse]) each

theorem Respects.seq {first : Fields (α → β)} {second : Fields α} (respects : first.Respects same)
    (later : second.Respects same) : (first <*> second).Respects same where
  checks := by
    intro field listed
    rcases List.mem_append.mp listed with listed | listed
    · exact respects.checks field listed
    · exact later.checks field listed
  build := by
    intro source image texts sparse related
    have named : (first <*> second).names = first.names ++ second.names := List.map_append
    rw [named, List.forall_mem_append] at related
    change (first.build source >>= fun make => second.build source >>= fun value =>
      pure (make value)) = (first.build image >>= fun make => second.build image >>= fun value =>
      pure (make value))
    rw [respects.build source image texts sparse related.1,
      later.build source image texts sparse related.2]

theorem Respects.map {fields : Fields α} (respects : fields.Respects same) (make : α → β) :
    (make <$> fields).Respects same :=
  Respects.seq ⟨nofun, fun _ _ _ _ _ => rfl⟩ respects

end Respects

section Tables

variable {fields : Fields α}

theorem checkMembers_append (fields : Fields α) (front back : List (String × Value)) :
    fields.checkMembers (front ++ back) =
      (fields.checkMembers front >>= fun _ => fields.checkMembers back) := by
  induction front with
  | nil => rfl
  | cons member front ih =>
    simp only [List.cons_append, checkMembers, ih]
    split <;> exact (bind_assoc _ _ _).symm

theorem ofMembers_of_addsMember (respects : fields.Respects fun _ => Eq)
    {members larger : List (String × Value)} (adds : AddsMember fields.names members larger) :
    fields.ofMembers larger = fields.ofMembers members := by
  cases adds with
  | @insert front back key value undeclared =>
    have passed : fields.checkMembers ((key, value) :: back) = fields.checkMembers back := by
      have absent : fields.checks.find? (fun field => field.name == key) = none := by
        rw [List.find?_eq_none]
        intro field listed named
        exact undeclared (beq_iff_eq.mp named ▸ List.mem_map_of_mem listed)
      rw [checkMembers, absent]
      rfl
    have built : fields.build ⟨front ++ (key, value) :: back, .missingField, true⟩ =
        fields.build ⟨front ++ back, .missingField, true⟩ := by
      refine respects.build _ _ rfl rfl fun name declared => ?_
      have other : name ≠ key := fun same => undeclared (same ▸ declared)
      rw [lookup_append_cons_of_ne front back value other]
      exact optionRel_refl (fun _ => rfl) _
    rw [ofMembers, ofMembers, checkMembers_append, passed, ← checkMembers_append, built]

theorem ofMembers_of_same {same : String → Value → Value → Prop} (respects : fields.Respects same)
    (refl : ∀ key value, same key value value) (front back : List (String × Value)) {key : String}
    {value image : Value} (alike : same key value image) :
    fields.ofMembers (front ++ (key, value) :: back) =
      fields.ofMembers (front ++ (key, image) :: back) := by
  have passed : fields.checkMembers ((key, value) :: back) =
      fields.checkMembers ((key, image) :: back) := by
    rw [checkMembers, checkMembers]
    split
    · rename_i field found
      have named : field.name = key := by
        simpa using List.find?_some found
      rw [respects.checks field (List.mem_of_find?_eq_some found) value image (named ▸ alike)]
    · rfl
  have built : fields.build ⟨front ++ (key, value) :: back, .missingField, true⟩ =
      fields.build ⟨front ++ (key, image) :: back, .missingField, true⟩ := by
    refine respects.build _ _ rfl rfl fun name declared => ?_
    rw [lookup_append_cons, lookup_append_cons]
    cases front.lookup name with
    | some first => exact .some (refl name first)
    | none =>
      split
      · rename_i here
        exact .some (here ▸ alike)
      · exact optionRel_refl (refl name) _
  rw [ofMembers, ofMembers, checkMembers_append, passed, ← checkMembers_append, built]

end Tables

end Fields

end DevicePlan
