import DevicePlan.Proofs.Json.Blanks
import DevicePlan.Proofs.Plan.Codec

namespace DevicePlan

theorem count_inj {count other : UInt32} :
    Value.integer count.toNat = Value.integer other.toNat ↔ count = other := by
  rw [Value.integer.injEq, Int.natCast_inj, UInt32.toNat_inj]

theorem Cluster.encode_inj {cluster other : Cluster} :
    cluster.encode = other.encode ↔ cluster = other := by
  cases cluster
  cases other
  simp only [encode, Value.table.injEq, List.cons.injEq, Prod.mk.injEq, count_inj, true_and,
    and_true, mk.injEq]

theorem Provisioning.name_inj {provisioning other : Provisioning} :
    provisioning.name = other.name ↔ provisioning = other := by
  cases provisioning <;> cases other <;> decide

theorem Pool.encode_inj {pool other : Pool} : pool.encode = other.encode ↔ pool = other := by
  have counts : Function.Injective fun count : UInt32 => Value.integer count.toNat :=
    fun count other same => count_inj.mp same
  obtain ⟨name, rows, provisioning⟩ := pool
  obtain ⟨otherName, otherRows, otherProvisioning⟩ := other
  simp [encode, Provisioning.name_inj, (List.map_injective_iff.mpr counts).eq_iff,
    Array.toList_inj]

theorem Bindings.encode_inj {bindings other : Bindings} :
    bindings.encode = other.encode ↔ bindings = other := by
  constructor
  · intro same
    apply ext_get
    intro role
    have strings : Function.Injective Value.string := fun text other => Value.string.inj
    apply Option.map_injective strings
    rw [← member?_encode, ← member?_encode, same]
  · rintro rfl
    rfl

theorem Plan.encode_inj {plan other : Plan} : plan.encode = other.encode ↔ plan = other := by
  have pools : Function.Injective Pool.encode := fun pool other => Pool.encode_inj.mp
  obtain ⟨cluster, declared, bindings⟩ := plan
  obtain ⟨otherCluster, otherDeclared, otherBindings⟩ := other
  simp [encode, Cluster.encode_inj, Bindings.encode_inj,
    (List.map_injective_iff.mpr pools).eq_iff]

namespace Json

theorem compact_inj {v w : Value} (plain : Plain v) (otherPlain : Plain w) :
    compact v = compact w ↔ v = w := by
  constructor
  · intro same
    have read := read?_compact plain
    rw [same, read?_compact otherPlain] at read
    exact (Option.some.inj read).symm
  · rintro rfl
    rfl

theorem read?_pretty_alone {v : Value} (plain : Plain v) : read? (pretty v) = some v := by
  have read := @read?_pretty v plain "" (by simp)
  rwa [String.append_empty] at read

theorem pretty_inj {v w : Value} (plain : Plain v) (otherPlain : Plain w) :
    pretty v = pretty w ↔ v = w := by
  rw [← compact_inj plain otherPlain]
  constructor
  · intro same
    rw [← withoutBlanks_pretty plain, same, withoutBlanks_pretty otherPlain]
  · intro same
    rw [(compact_inj plain otherPlain).mp same]

end Json

theorem Plan.texts_denote_plan (plan other : Plan) :
    Json.read? (Json.compact plan.encode) = some plan.encode ∧
    Json.read? (Json.pretty plan.encode) = some plan.encode ∧
    Json.withoutBlanks (Json.pretty plan.encode) = Json.compact plan.encode ∧
    (Json.compact plan.encode = Json.compact other.encode ↔ plan = other) ∧
    (Json.pretty plan.encode = Json.pretty other.encode ↔ plan = other) := by
  have plain := plan.plain_encode
  have otherPlain := other.plain_encode
  refine ⟨Json.read?_compact plain, Json.read?_pretty_alone plain, Json.withoutBlanks_pretty plain,
    ?_, ?_⟩
  · rw [Json.compact_inj plain otherPlain, encode_inj]
  · rw [Json.pretty_inj plain otherPlain, encode_inj]

end DevicePlan
