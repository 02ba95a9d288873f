import DevicePlan.Document.Value
import Mathlib.Data.List.Nodup
import Mathlib.Data.List.Perm.Basic

namespace DevicePlan

theorem lookup_map_snd {α β : Type} (entries : List (String × α)) (f : α → β) (key : String) :
    (entries.map fun entry => (entry.1, f entry.2)).lookup key = (entries.lookup key).map f := by
  induction entries with
  | nil => rfl
  | cons entry entries ih =>
    rw [List.map_cons, lookup_cons_eq_ite, lookup_cons_eq_ite, ih]
    split <;> rfl

theorem lookup_reverse {α : Type} {entries : List (String × α)}
    (distinct : (entries.map Prod.fst).Nodup) (key : String) :
    entries.reverse.lookup key = entries.lookup key := by
  have reversed : (entries.reverse.map Prod.fst).Nodup := by
    rwa [List.map_reverse, List.nodup_reverse]
  ext value
  rw [lookup_eq_some_iff_mem reversed, lookup_eq_some_iff_mem distinct, List.mem_reverse]

namespace NameMap

variable {α : Type}

theorem perm_ofList {entries : List (String × α)} (distinct : (entries.map Prod.fst).Nodup) :
    (ofList entries).entries.Perm entries := by
  have inside := (ofList entries).nodup_names.of_map
  rw [List.perm_ext_iff_of_nodup inside distinct.of_map]
  rintro ⟨name, value⟩
  rw [← get?_eq_some_iff, get?_ofList, lookup_reverse distinct, lookup_eq_some_iff_mem distinct]

theorem ext_get? {first second : NameMap α} (same : ∀ name, first.get? name = second.get? name) :
    first = second := by
  have alike : first.entries.Perm second.entries := by
    rw [List.perm_ext_iff_of_nodup first.nodup_names.of_map second.nodup_names.of_map]
    rintro ⟨name, value⟩
    rw [← get?_eq_some_iff, ← get?_eq_some_iff, same]
  apply eq_of_entries
  refine alike.eq_of_pairwise ?_ first.ascends second.ascends
  exact fun _ _ _ _ less more => absurd more (String.lt_asymm less)

end NameMap

namespace Value

theorem sortedMembers_eq (members : List (String × Value)) (map : NameMap Value) :
    sortedMembers map.entries members =
      ((members.map fun member => (member.1, member.2.sorted)).foldl
        (fun map entry => map.insert entry.1 entry.2) map).entries := by
  induction members generalizing map with
  | nil => rfl
  | cons member members ih =>
    rw [List.map_cons, List.foldl_cons, ← ih]
    rfl

theorem sortedMembers_nil (members : List (String × Value)) :
    sortedMembers [] members =
      (NameMap.ofList (members.map fun member => (member.1, member.2.sorted))).entries :=
  sortedMembers_eq members .empty

theorem nodup_sorted (members : List (String × Value)) :
    ((sortedMembers [] members).map Prod.fst).Nodup := by
  rw [sortedMembers_nil]
  exact NameMap.nodup_names _

section

variable {members : List (String × Value)} (distinct : (members.map Prod.fst).Nodup)

include distinct

theorem nodup_map_sorted :
    ((members.map fun member => (member.1, member.2.sorted)).map Prod.fst).Nodup := by
  rwa [List.map_map]

theorem get?_sorted (key : String) :
    (NameMap.ofList (members.map fun member => (member.1, member.2.sorted))).get? key =
      (members.lookup key).map sorted := by
  rw [NameMap.get?_ofList, lookup_reverse (nodup_map_sorted distinct), lookup_map_snd]

theorem lookup_sorted (key : String) :
    (sortedMembers [] members).lookup key = (members.lookup key).map sorted := by
  rw [sortedMembers_nil]
  exact get?_sorted distinct key

theorem perm_sorted :
    (sortedMembers [] members).Perm (members.map fun member => (member.1, member.2.sorted)) := by
  rw [sortedMembers_nil]
  exact NameMap.perm_ofList (nodup_map_sorted distinct)

end

def isNested : Value → Bool
  | array _ | tables _ | table _ => true
  | _ => false

theorem sorted_eq_iff {value scalar : Value} (plain : scalar.isNested = false) :
    value.sorted = scalar ↔ value = scalar := by
  cases value with
  | array elements | tables elements | table members =>
    constructor
    · rintro rfl
      cases plain
    · rintro rfl
      cases plain
  | _ => rfl

/-- A value of a JSON document in which the keys of every object are distinct. -/
inductive IsJson : Value → Prop where
  | null : IsJson .null
  | boolean (value : Bool) : IsJson (.boolean value)
  | integer (value : Int) : IsJson (.integer value)
  | float (value : Float) : IsJson (.float value)
  | string (value : String) : IsJson (.string value)
  | array {elements : List Value} (each : ∀ element ∈ elements, IsJson element) :
    IsJson (.array elements)
  | table {members : List (String × Value)} (distinct : (members.map Prod.fst).Nodup)
    (each : ∀ member ∈ members, IsJson member.2) : IsJson (.table members)

theorem IsJson.distinct {members : List (String × Value)} (json : (Value.table members).IsJson) :
    (members.map Prod.fst).Nodup := by
  cases json with
  | table distinct each => exact distinct

theorem IsJson.member {members : List (String × Value)} (json : (Value.table members).IsJson)
    {key : String} {value : Value} (found : members.lookup key = some value) : value.IsJson := by
  cases json with
  | table distinct each => exact each (key, value) ((lookup_eq_some_iff_mem distinct).mp found)

theorem IsJson.sorted_eq_single_iff {value scalar : Value} (json : value.IsJson) {key : String}
    (plain : scalar.isNested = false) :
    value.sorted = .table [(key, scalar)] ↔ value = .table [(key, scalar)] := by
  cases json with
  | table distinct each =>
    rename_i members
    change Value.table (sortedMembers [] members) = _ ↔ _
    rw [table.injEq, table.injEq]
    have alike := perm_sorted distinct
    constructor
    · intro single
      rw [single, List.singleton_perm] at alike
      obtain ⟨member, rfl, same⟩ := List.map_eq_singleton_iff.mp alike.symm
      obtain ⟨named, sorted⟩ := Prod.mk.inj same
      rw [← named, ← (sorted_eq_iff plain).mp sorted]
    · rintro rfl
      rw [List.map_singleton, (sorted_eq_iff plain).mpr rfl, List.perm_singleton] at alike
      exact alike
  | _ => simp [sorted]

end Value

end DevicePlan
