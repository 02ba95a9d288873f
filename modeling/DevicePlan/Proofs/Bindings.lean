import DevicePlan.Bindings
import DevicePlan.NameMap
import Mathlib.Data.List.Nodup

namespace DevicePlan

namespace Bindings

theorem keys_toList (bindings : Bindings) :
    bindings.toList.map Prod.fst = Role.all.filter bindings.isBound := by
  unfold toList
  induction Role.all with
  | nil => rfl
  | cons role roles ih =>
    cases bound : bindings.get role <;> simp [isBound, bound, ih]

theorem size_eq (bindings : Bindings) : bindings.size = Role.all.countP bindings.isBound := by
  rw [List.countP_eq_length_filter, ← keys_toList, List.length_map, size]

theorem ascends_toList (bindings : Bindings) :
    bindings.toList.Pairwise fun entry next => entry.1 < next.1 := by
  have ascend : Role.all.Pairwise (· < ·) := by decide
  rw [← List.pairwise_map (f := Prod.fst), keys_toList]
  exact ascend.filter _

theorem nodup_names (bindings : Bindings) :
    (bindings.toList.map fun entry => entry.1.name).Nodup := by
  have names : bindings.toList.map (fun entry => entry.1.name) =
      (bindings.toList.map Prod.fst).map Role.name := by
    simp
  rw [names, keys_toList]
  have all : (Role.all.map Role.name).Nodup := by decide
  exact all.sublist (List.filter_sublist.map Role.name)

def named (bindings : Bindings) : NameMap String :=
  .ofList (bindings.toList.map fun entry => (entry.1.name, entry.2))

theorem mem_named {bindings : Bindings} {name pool : String} :
    (name, pool) ∈ bindings.named.entries ↔
      ∃ role : Role, name = role.name ∧ bindings.get role = some pool := by
  have distinct : ((bindings.toList.map fun entry => (entry.1.name, entry.2)).reverse.map
      Prod.fst).Nodup := by
    rw [List.map_reverse, List.nodup_reverse, List.map_map]
    exact bindings.nodup_names
  rw [← NameMap.get?_eq_some_iff, named, NameMap.get?_ofList, lookup_eq_some_iff_mem distinct,
    List.mem_reverse]
  simp only [List.mem_map, Prod.exists, mem_toList, Prod.mk.injEq]
  constructor
  · rintro ⟨role, host, bound, rfl, rfl⟩
    exact ⟨role, rfl, bound⟩
  · rintro ⟨role, rfl, bound⟩
    exact ⟨role, pool, bound, rfl, rfl⟩

theorem get?_named (bindings : Bindings) (role : Role) :
    bindings.named.get? role.name = bindings.get role := by
  ext pool
  rw [NameMap.get?_eq_some_iff, mem_named]
  simp

end Bindings

end DevicePlan
