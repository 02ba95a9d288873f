import DevicePlan.Plan.Codec
import DevicePlan.Proofs.Bindings
import DevicePlan.Proofs.Json.Text
import DevicePlan.Proofs.Views

namespace DevicePlan

def Value.member? (value : Value) (key : String) : Option Value :=
  match value with
  | .table members => members.lookup key
  | _ => none

open Json (Plain Fits)

theorem plain_count (count : UInt32) : Plain (.integer count.toNat) := by
  apply Plain.integer
  have bound := count.toNat_lt
  rw [Fits, Json.maxWord]
  omega

theorem Pool.plain_encode (pool : Pool) : Plain pool.encode := by
  apply Plain.table
  simp only [List.forall_mem_cons]
  refine ⟨.string pool.name, .array ?_, .string pool.provisioning.name, by simp⟩
  intro value member
  obtain ⟨count, -, rfl⟩ := List.mem_map.mp member
  exact plain_count count

theorem Pool.name_encode (pool : Pool) : pool.encode.member? "name" = some (.string pool.name) := by
  rfl

theorem Pool.counts_encode (pool : Pool) : pool.encode.member? "per_node_device_counts" =
    some (.array ((pool.rows.toList.map UInt32.toNat).map fun count : Nat => .integer count)) := by
  rw [List.map_map]
  rfl

theorem Bindings.member?_encode (bindings : Bindings) (role : Role) :
    bindings.encode.member? role.name = (bindings.get role).map .string := by
  have distinct : ((bindings.toList.map fun entry =>
      (entry.1.name, Value.string entry.2)).map Prod.fst).Nodup := by
    simpa [Function.comp_def] using bindings.nodup_names
  have document : bindings.encode =
      .table (bindings.toList.map fun entry => (entry.1.name, .string entry.2)) := rfl
  apply Option.ext
  intro value
  rw [document, Value.member?, lookup_eq_some_iff_mem distinct]
  simp only [List.mem_map, Prod.exists, Prod.mk.injEq, Role.name_inj, mem_toList,
    Option.map_eq_some_iff]
  constructor
  · rintro ⟨role, pool, bound, rfl, rfl⟩
    exact ⟨pool, bound, rfl⟩
  · rintro ⟨pool, bound, rfl⟩
    exact ⟨role, pool, bound, rfl, rfl⟩

theorem Bindings.plain_encode (bindings : Bindings) : Plain bindings.encode := by
  apply Plain.table
  intro member listed
  obtain ⟨entry, -, rfl⟩ := List.mem_map.mp listed
  exact .string entry.2

theorem Cluster.plain_encode (cluster : Cluster) : Plain cluster.encode := by
  apply Plain.table
  simp only [List.forall_mem_cons]
  exact ⟨plain_count cluster.nodes, plain_count cluster.devicesPerNode, by simp⟩

theorem Plan.plain_encode (plan : Plan) : Plain plan.encode := by
  apply Plain.table
  simp only [List.forall_mem_cons]
  refine ⟨plan.cluster.plain_encode, .array ?_, plan.bindings.plain_encode, by simp⟩
  intro value member
  obtain ⟨pool, -, rfl⟩ := List.mem_map.mp member
  exact pool.plain_encode

theorem Plan.read?_pretty (plan : Plan) :
    Json.read? (Json.pretty plan.encode ++ "\n") = some plan.encode := by
  apply Json.read?_pretty plan.plain_encode
  simp [Json.isBlank]

end DevicePlan
