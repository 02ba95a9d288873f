import DevicePlan.Proofs.Freeze
import Mathlib.Data.List.Nodup

namespace DevicePlan

namespace Bindings

theorem rolesOf_ascend (bindings : Bindings) (pool : String) :
    (bindings.rolesOf pool).Pairwise (· < ·) := by
  have ascend : Role.all.Pairwise (· < ·) := by decide
  exact ascend.filter _

theorem count_rolesOf (bindings : Bindings) (pool : String) (role : Role) :
    (bindings.rolesOf pool).count role = if bindings.get role = some pool then 1 else 0 := by
  by_cases hosted : bindings.get role = some pool
  · have once : Role.all.count role = 1 := by cases role <;> decide
    rw [if_pos hosted, rolesOf, List.count_filter (by simp [hosted]), once]
  · rw [if_neg hosted, List.count_eq_zero, mem_rolesOf]
    exact hosted

theorem count_flatMap_rolesOf (bindings : Bindings) (pools : List String) (role : Role) :
    (pools.flatMap bindings.rolesOf).count role =
      match bindings.get role with
      | none => 0
      | some name => pools.count name := by
  induction pools with
  | nil => cases bindings.get role <;> rfl
  | cons pool rest ih =>
    rw [List.flatMap_cons, List.count_append, ih, count_rolesOf]
    cases bindings.get role with
    | none => simp
    | some name =>
      by_cases same : pool = name
      · simp [same, Nat.add_comm]
      · simp [same, Ne.symm same]

end Bindings

theorem find?_name_eq_some_iff {pools : List Pool} (distinct : (pools.map Pool.name).Nodup)
    {name : String} {pool : Pool} :
    pools.find? (fun pool => pool.name == name) = some pool ↔ pool ∈ pools ∧ pool.name = name := by
  constructor
  · intro found
    exact ⟨List.mem_of_find?_eq_some found, by simpa using List.find?_some found⟩
  · rintro ⟨member, rfl⟩
    cases found : pools.find? (fun other => other.name == pool.name) with
    | none =>
      have absent := List.find?_eq_none.mp found pool member
      simp at absent
    | some other =>
      have same : other.name = pool.name := by simpa using List.find?_some found
      rw [List.inj_on_of_nodup_map distinct (List.mem_of_find?_eq_some found) member same]

namespace Plan

structure Consistent (plan : Plan) : Prop where
  distinct : (plan.pools.map Pool.name).Nodup
  declared : ∀ role name, plan.bindings.get role = some name → name ∈ plan.pools.map Pool.name

theorem consistent_of_freeze {layout : Layout} {bindings : Bindings} {plan : Plan}
    (frozen : freeze layout bindings = .ok plan) : plan.Consistent := by
  obtain ⟨faultless, rfl⟩ := freeze_eq_ok_iff.mp frozen
  obtain ⟨names, bound, -⟩ := Layout.fault_eq_none_iff.mp faultless
  exact ⟨Layout.nameFault_eq_none_iff.mp names, Layout.bindingFault_eq_none_iff.mp bound⟩

namespace Consistent

variable {plan : Plan}

theorem pool?_eq_some_iff (consistent : plan.Consistent) {name : String} {pool : Pool} :
    plan.pool? name = some pool ↔ pool ∈ plan.pools ∧ pool.name = name :=
  find?_name_eq_some_iff consistent.distinct

theorem exists_pool (consistent : plan.Consistent) {role : Role} {name : String}
    (bound : plan.bindings.get role = some name) :
    ∃ pool ∈ plan.pools, pool.name = name ∧ plan.pool? name = some pool := by
  obtain ⟨pool, member, named⟩ := List.mem_map.mp (consistent.declared role name bound)
  exact ⟨pool, member, named, consistent.pool?_eq_some_iff.mpr ⟨member, named⟩⟩

theorem resolve_eq_ok_iff (consistent : plan.Consistent) {role : Role} {pool : Pool} :
    plan.resolve role = .ok pool ↔
      pool ∈ plan.pools ∧ plan.bindings.get role = some pool.name := by
  unfold resolve
  cases bound : plan.bindings.get role with
  | none => simp
  | some name =>
    obtain ⟨host, member, rfl, found⟩ := consistent.exists_pool bound
    simp only [found, Except.ok.injEq, Option.some.injEq]
    constructor
    · rintro rfl
      exact ⟨member, rfl⟩
    · rintro ⟨other, named⟩
      exact List.inj_on_of_nodup_map consistent.distinct member other named

theorem resolve_eq_error_iff (consistent : plan.Consistent) {role : Role} {error : PlanError} :
    plan.resolve role = .error error ↔
      plan.bindings.get role = none ∧ error = .unboundRole role := by
  unfold resolve
  cases bound : plan.bindings.get role with
  | none => simp [eq_comm]
  | some name =>
    obtain ⟨host, -, -, found⟩ := consistent.exists_pool bound
    simp [found]

theorem count_rolesByPool (consistent : plan.Consistent) (role : Role) :
    (plan.rolesByPool.flatMap Prod.snd).count role =
      if plan.bindings.isBound role then 1 else 0 := by
  have listed : plan.rolesByPool.flatMap Prod.snd =
      (plan.pools.map Pool.name).flatMap plan.bindings.rolesOf := by
    simp [rolesByPool, List.flatMap_map]
  rw [listed, Bindings.count_flatMap_rolesOf, Bindings.isBound]
  cases bound : plan.bindings.get role with
  | none => rfl
  | some name =>
    exact List.count_eq_one_of_mem consistent.distinct (consistent.declared role name bound)

end Consistent

theorem frozen_views_agree {layout : Layout} {bindings : Bindings} {plan : Plan}
    (frozen : freeze layout bindings = .ok plan) :
    plan.rolesByPool.map Prod.fst = plan.pools ∧
    (∀ (i : Nat) (pool : Pool), plan.pools[i]? = some pool →
      ∃ roles : List Role, plan.rolesByPool[i]? = some (pool, roles) ∧
        (∀ role, role ∈ roles ↔ plan.resolve role = .ok pool) ∧ roles.Pairwise (· < ·) ∧
        plan.pool? pool.name = some pool) ∧
    (∀ role, (plan.rolesByPool.flatMap Prod.snd).count role =
      if plan.bindings.isBound role then 1 else 0) ∧
    (∀ role, plan.bindings.isBound role = false →
      plan.resolve role = .error (.unboundRole role)) ∧
    ∀ role other name, plan.resolve role ≠ .error (.unknownPool other name) := by
  have consistent := consistent_of_freeze frozen
  refine ⟨by simp [rolesByPool, Function.comp_def], ?_, consistent.count_rolesByPool, ?_, ?_⟩
  · intro i pool located
    have member := List.mem_of_getElem? located
    refine ⟨plan.bindings.rolesOf pool.name, by simp [rolesByPool, located], ?_,
      plan.bindings.rolesOf_ascend pool.name,
      consistent.pool?_eq_some_iff.mpr ⟨member, rfl⟩⟩
    intro role
    rw [Bindings.mem_rolesOf, consistent.resolve_eq_ok_iff]
    exact ⟨fun hosted => ⟨member, hosted⟩, And.right⟩
  · intro role unbound
    exact consistent.resolve_eq_error_iff.mpr ⟨by simpa [Bindings.isBound] using unbound, rfl⟩
  · intro role other name unknown
    obtain ⟨-, impossible⟩ := consistent.resolve_eq_error_iff.mp unknown
    cases impossible

theorem fullNodes_views : ∃ plan, freeze fullNodes (.split "first" "second") = .ok plan ∧
    plan.rolesByPool.map Prod.fst = fullNodes.pools ∧
    (plan.rolesByPool.flatMap Prod.snd).count .reference = 1 ∧
    plan.resolve .rewardModel = .error (.unboundRole .rewardModel) := by
  obtain ⟨pools, -, listed, unbound, -⟩ := frozen_views_agree freeze_fullNodes
  exact ⟨_, freeze_fullNodes, pools, listed .reference, unbound .rewardModel rfl⟩

end Plan

end DevicePlan
