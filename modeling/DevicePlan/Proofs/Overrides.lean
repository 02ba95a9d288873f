import DevicePlan.NameMap
import DevicePlan.Placement
import DevicePlan.Proofs.Freeze
import Mathlib.Data.List.Nodup

namespace DevicePlan

def lastPool (overrides : List (Role × String)) (role : Role) : Option String :=
  overrides.reverse.lookup role

@[simp]
theorem lastPool_nil (role : Role) : lastPool [] role = none := rfl

theorem lastPool_append (first second : List (Role × String)) (role : Role) :
    lastPool (first ++ second) role = (lastPool second role).or (lastPool first role) := by
  rw [lastPool, List.reverse_append, List.lookup_append]
  rfl

theorem lastPool_cons (entry : Role × String) (rest : List (Role × String)) (role : Role) :
    lastPool (entry :: rest) role =
      (lastPool rest role).or (if role = entry.1 then some entry.2 else none) := by
  rw [← List.singleton_append, lastPool_append]
  congr 1
  exact lookup_cons_eq_ite entry [] role

theorem mem_of_lastPool {overrides : List (Role × String)} {role : Role} {pool : String}
    (last : lastPool overrides role = some pool) : (role, pool) ∈ overrides := by
  obtain ⟨before, after, same, -⟩ := List.lookup_eq_some_iff.mp last
  exact List.mem_reverse.mp (same ▸ by simp)

theorem lastPool_eq_some_iff {overrides : List (Role × String)}
    (distinct : (overrides.map Prod.fst).Nodup) {role : Role} {pool : String} :
    lastPool overrides role = some pool ↔ (role, pool) ∈ overrides := by
  have reversed : (overrides.reverse.map Prod.fst).Nodup := by
    rw [List.map_reverse, List.nodup_reverse]
    exact distinct
  rw [lastPool, lookup_eq_some_iff_mem reversed, List.mem_reverse]

namespace Bindings

def bindAll (bindings : Bindings) (overrides : List (Role × String)) : Bindings :=
  overrides.foldl (fun bindings entry => bindings.bind entry.1 entry.2) bindings

theorem get_bindAll (bindings : Bindings) (overrides : List (Role × String)) (role : Role) :
    (bindings.bindAll overrides).get role =
      (lastPool overrides role).or (bindings.get role) := by
  -- From the front, where the bindings change: a later entry is asked first, then this one.
  induction overrides generalizing bindings with
  | nil => rfl
  | cons entry rest ih =>
    rw [bindAll, List.foldl_cons, ← bindAll, ih, get_bind, lastPool_cons, Option.or_assoc]
    by_cases same : role = entry.1 <;> simp [same]

theorem get_colocated (pool : String) (roles : List Role) (role : Role) :
    (colocated pool roles).get role = if role ∈ roles then some pool else none := by
  have last : lastPool (roles.map (·, pool)) role = if role ∈ roles then some pool else none := by
    induction roles with
    | nil => rfl
    | cons first rest ih =>
      rw [List.map_cons, lastPool_cons, ih]
      by_cases later : role ∈ rest <;> simp [later]
  have shared : colocated pool roles = empty.bindAll (roles.map (·, pool)) := by
    rw [bindAll, List.foldl_map, colocated]
  rw [shared, get_bindAll, last, get_empty, Option.or_none]

theorem attach_eq_ok_iff {bindings result : Bindings} {layout : Layout} {role : Role}
    {pool : String} : bindings.attach layout role pool = .ok result ↔
      pool ∈ layout.names ∧ result = bindings.bind role pool := by
  rw [attach, ← Layout.declares_iff]
  by_cases declared : layout.declares pool = true
  · simp [declared, eq_comm]
  · simp [declared]

@[simp]
theorem outcome_runAttach (bindings : Bindings) (layout : Layout) (role : Role) (pool : String) :
    (bindings.runAttach layout role pool).outcome = bindings.attach layout role pool :=
  Run.outcome_reporting _ _

theorem runAttachAll_eq_ok_iff {bindings result : Bindings} {layout : Layout}
    {overrides : List (Role × String)} :
    (bindings.runAttachAll layout overrides).outcome = .ok result ↔
      (∀ entry ∈ overrides, entry.2 ∈ layout.names) ∧ result = bindings.bindAll overrides := by
  induction overrides generalizing bindings with
  | nil => simp [runAttachAll, bindAll, eq_comm]
  | cons entry rest ih =>
    obtain ⟨role, pool⟩ := entry
    rw [runAttachAll, Run.outcome_bind_eq_ok]
    simp only [outcome_runAttach, attach_eq_ok_iff, ih, List.forall_mem_cons]
    constructor
    · rintro ⟨bound, ⟨here, rfl⟩, later, rfl⟩
      exact ⟨⟨here, later⟩, rfl⟩
    · rintro ⟨⟨here, later⟩, rfl⟩
      exact ⟨_, ⟨here, rfl⟩, later, rfl⟩

end Bindings

end DevicePlan
