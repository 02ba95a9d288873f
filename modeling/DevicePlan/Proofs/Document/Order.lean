import DevicePlan.Proofs.Document.Decode
import DevicePlan.Proofs.Document.Sorted

namespace DevicePlan

section Permuted

variable {α : Type} {members images : List (String × α)}
  (keys : (members.map Prod.fst).Perm (images.map Prod.fst)) {key : String}

include keys

theorem lookup_eq_none_iff_of_perm : members.lookup key = none ↔ images.lookup key = none := by
  rw [lookup_eq_none_iff_notMem, keys.mem_iff, ← lookup_eq_none_iff_notMem]

theorem exists_lookup_of_perm {value : α} (found : members.lookup key = some value) :
    ∃ image, images.lookup key = some image := by
  rw [← Option.ne_none_iff_exists', ne_eq, ← lookup_eq_none_iff_of_perm keys, found]
  nofun

end Permuted

namespace Value

inductive Unambiguous : Value → Prop where
  | scalar {value : Value} (plain : value.isNested = false) : Unambiguous value
  | list {value : Value} {elements : List Value} (listed : value.elements? = some elements)
    (each : ∀ element ∈ elements, Unambiguous element) : Unambiguous value
  | table {members : List (String × Value)} (distinct : (members.map Prod.fst).Nodup)
    (each : ∀ member ∈ members, Unambiguous member.2) : Unambiguous (.table members)

/-- The same tree, except that the members of its tables may stand in another order. How an array of
tables is written does not matter. -/
inductive Alike : Value → Value → Prop where
  | scalar {value : Value} (plain : value.isNested = false) : Alike value value
  | list {value image : Value} {elements images : List Value}
    (listed : value.elements? = some elements) (imaged : image.elements? = some images)
    (length : elements.length = images.length)
    (each : ∀ (index : Nat) (former latter : Value), elements[index]? = some former →
      images[index]? = some latter → Alike former latter) : Alike value image
  | table {members images : List (String × Value)}
    (keys : (members.map Prod.fst).Perm (images.map Prod.fst))
    (each : ∀ (key : String) (former latter : Value), members.lookup key = some former →
      images.lookup key = some latter → Alike former latter) :
    Alike (.table members) (.table images)

theorem IsJson.unambiguous {value : Value} (json : value.IsJson) : value.Unambiguous := by
  induction json with
  | array _ each => exact .list rfl each
  | table distinct _ each => exact .table distinct each
  | _ => exact .scalar rfl

section Elements

variable {value : Value} {elements : List Value}

theorem isNested_of_elements (listed : value.elements? = some elements) :
    value.isNested = true := by
  cases value with
  | array _ | tables _ => rfl
  | _ => cases listed

theorem isNested_ne_false (listed : value.elements? = some elements) : value.isNested ≠ false := by
  rw [isNested_of_elements listed]
  nofun

theorem members?_of_elements (listed : value.elements? = some elements) :
    value.members? = none := by
  cases value with
  | array _ | tables _ => rfl
  | _ => cases listed

end Elements

theorem Unambiguous.distinct {members : List (String × Value)}
    (unambiguous : (Value.table members).Unambiguous) : (members.map Prod.fst).Nodup := by
  cases unambiguous with
  | scalar plain => cases plain
  | list listed each => cases listed
  | table distinct each => exact distinct

theorem Unambiguous.member {members : List (String × Value)}
    (unambiguous : (Value.table members).Unambiguous) {key : String} {value : Value}
    (found : members.lookup key = some value) : value.Unambiguous := by
  cases unambiguous with
  | scalar plain => cases plain
  | list listed each => cases listed
  | table distinct each => exact each (key, value) ((lookup_eq_some_iff_mem distinct).mp found)

theorem Unambiguous.element {value element : Value} {elements : List Value}
    (unambiguous : value.Unambiguous) (listed : value.elements? = some elements)
    (member : element ∈ elements) : element.Unambiguous := by
  cases unambiguous with
  | scalar plain => exact absurd plain (isNested_ne_false listed)
  | list same each =>
    rw [listed, Option.some.injEq] at same
    exact each element (same ▸ member)
  | table distinct each => cases listed

namespace Alike

variable {value image : Value}

theorem isNested_eq (alike : value.Alike image) : value.isNested = image.isNested := by
  cases alike with
  | scalar plain => rfl
  | list listed imaged => rw [isNested_of_elements listed, isNested_of_elements imaged]
  | table keys each => rfl

theorem eq_of_scalar (alike : value.Alike image) (plain : value.isNested = false) :
    value = image := by
  cases alike with
  | scalar _ => rfl
  | list listed => exact absurd plain (isNested_ne_false listed)
  | table keys each => cases plain

theorem symm (alike : value.Alike image) : image.Alike value := by
  induction alike with
  | scalar plain => exact .scalar plain
  | list listed imaged length _ ih =>
    exact .list imaged listed length.symm fun index former latter found image =>
      ih index latter former image found
  | table keys _ ih =>
    exact .table keys.symm fun key former latter found image => ih key latter former image found

theorem trans {last : Value} (alike : value.Alike image) (further : image.Alike last) :
    value.Alike last := by
  induction alike generalizing last with
  | scalar _ => exact further
  | list listed imaged length _ ih =>
    cases further with
    | scalar plain => exact absurd plain (isNested_ne_false imaged)
    | list same there others each =>
      obtain rfl := Option.some.inj (imaged.symm.trans same)
      refine .list listed there (length.trans others) fun index former latter found image => ?_
      have inside := (List.getElem?_eq_some_iff.mp found).1
      rw [length] at inside
      have between := List.getElem?_eq_getElem inside
      exact ih index former _ found between (each index _ latter between image)
    | table keys each => cases imaged
  | @table members images keys _ ih =>
    cases further with
    | scalar plain => cases plain
    | list same => cases same
    | table others each =>
      refine .table (keys.trans others) fun key former latter found image => ?_
      obtain ⟨between, middle⟩ := exists_lookup_of_perm keys found
      exact ih key former between found middle (each key between latter middle image)

theorem eq_single {key : String} {member : Value}
    (alike : (Value.table [(key, member)]).Alike image) :
    ∃ other, image = .table [(key, other)] ∧ member.Alike other := by
  cases alike with
  | scalar plain => cases plain
  | list listed => cases listed
  | @table _ images keys each =>
    obtain ⟨⟨name, other⟩, rfl, rfl⟩ :=
      List.map_eq_singleton_iff.mp (List.singleton_perm.mp keys).symm
    exact ⟨other, rfl, each name member other (by simp) (by simp)⟩

theorem elements {elements images : List Value} (alike : value.Alike image)
    (listed : value.elements? = some elements) (imaged : image.elements? = some images) :
    List.Forall₂ Alike elements images := by
  cases alike with
  | scalar plain => exact absurd plain (isNested_ne_false listed)
  | list same imagedSame length each =>
    obtain rfl := Option.some.inj (same.symm.trans listed)
    obtain rfl := Option.some.inj (imagedSame.symm.trans imaged)
    refine List.forall₂_iff_get.mpr ⟨length, fun index here there => ?_⟩
    exact each index _ _ (List.getElem?_eq_getElem here) (List.getElem?_eq_getElem there)
  | table keys each => cases listed

theorem lookup {members images : List (String × Value)}
    (alike : (Value.table members).Alike (.table images)) (key : String) :
    Option.Rel Alike (members.lookup key) (images.lookup key) := by
  cases alike with
  | scalar plain => cases plain
  | list listed => cases listed
  | table keys each =>
    cases former : members.lookup key with
    | none =>
      rw [(lookup_eq_none_iff_of_perm keys).mp former]
      exact .none
    | some value =>
      obtain ⟨image, latter⟩ := exists_lookup_of_perm keys former
      rw [latter]
      exact .some (each key value image former latter)

theorem unambiguous (alike : value.Alike image) (unambiguous : value.Unambiguous) :
    image.Unambiguous := by
  induction alike with
  | scalar plain => exact .scalar plain
  | list listed imaged length _ ih =>
    refine .list imaged fun image member => ?_
    obtain ⟨index, inside, rfl⟩ := List.getElem_of_mem member
    rw [← length] at inside
    exact ih index _ _ (List.getElem?_eq_getElem inside) (List.getElem?_eq_getElem _)
      (unambiguous.element listed (List.getElem_mem inside))
  | @table members images keys each ih =>
    have distinct := keys.nodup_iff.mp unambiguous.distinct
    refine .table distinct fun image member => ?_
    have latter := (lookup_eq_some_iff_mem distinct).mpr member
    have related := (Alike.table keys each).lookup image.1
    rw [latter] at related
    generalize former : members.lookup image.1 = found at related
    cases related with
    | some _ => exact ih image.1 _ image.2 former latter (unambiguous.member former)

end Alike

theorem sortedElements_eq_map (elements : List Value) :
    sortedElements elements = elements.map sorted := by
  induction elements with
  | nil => rfl
  | cons element elements ih => rw [sortedElements, ih, List.map_cons]

theorem elements?_sorted {value : Value} {elements : List Value}
    (listed : value.elements? = some elements) :
    value.sorted.elements? = some (elements.map sorted) := by
  cases value with
  | array _ | tables _ =>
    cases listed
    exact congrArg some (sortedElements_eq_map elements)
  | _ => cases listed

theorem Unambiguous.alike_sorted {value : Value} (unambiguous : value.Unambiguous) :
    value.Alike value.sorted := by
  induction unambiguous with
  | scalar plain =>
    rw [(sorted_eq_iff plain).mpr rfl]
    exact .scalar plain
  | list listed _ ih =>
    refine .list listed (elements?_sorted listed) (by simp)
      fun index former latter found image => ?_
    rw [List.getElem?_map, found, Option.map_some, Option.some.injEq] at image
    rw [← image]
    exact ih former (List.mem_of_getElem? found)
  | @table members distinct _ ih =>
    refine .table ?_ fun key former latter found image => ?_
    · have keys := (perm_sorted distinct).symm.map Prod.fst
      rwa [List.map_map] at keys
    · rw [lookup_sorted distinct, found, Option.map_some, Option.some.injEq] at image
      rw [← image]
      exact ih (key, former) ((lookup_eq_some_iff_mem distinct).mp found)

theorem Unambiguous.alike_refl {value : Value} (unambiguous : value.Unambiguous) :
    value.Alike value :=
  unambiguous.alike_sorted.trans unambiguous.alike_sorted.symm

section Reordered

variable {members images : List (String × Value)} (permuted : members.Perm images)

include permuted

theorem Unambiguous.alike_of_perm (unambiguous : (Value.table members).Unambiguous) :
    (Value.table members).Alike (.table images) := by
  have distinct := unambiguous.distinct
  have keys := permuted.map Prod.fst
  refine .table keys fun key former latter found image => ?_
  rw [lookup_eq_some_iff_mem (keys.nodup_iff.mp distinct), ← permuted.mem_iff,
    ← lookup_eq_some_iff_mem distinct, found, Option.some.injEq] at image
  rw [← image]
  exact (unambiguous.member found).alike_refl

end Reordered

end Value

end DevicePlan
