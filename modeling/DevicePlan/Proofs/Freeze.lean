import DevicePlan.Plan
import DevicePlan.Proofs.DeviceSum
import DevicePlan.Proofs.Layout

/-!
# What can be frozen

`Layout.Admits` says when a layout and its bindings may become a plan, in exact numbers. Each check
of `Plan.freeze` passes on its part of it, so freezing succeeds on exactly the layouts that admit
their bindings and changes nothing (`freeze_exactly_admitted`). The budgets are checked last, when
every primary pool is known to have a row for every node: a run that would break off at a missing
row (`Plan.freezeStrictly?`) never does.
-/

namespace DevicePlan

namespace Layout

def demand (layout : Layout) (node : Nat) : Nat :=
  (layout.primaryPools.map fun pool => (pool.rows.getD node 0).toNat).sum

structure Admits (layout : Layout) (bindings : Bindings) : Prop where
  distinct : layout.names.Nodup
  declared : ∀ role name, bindings.get role = some name → name ∈ layout.names
  primaryRows : ∀ pool ∈ layout.pools, pool.provisioning = .primary →
    pool.rows.size = layout.cluster.nodes.toNat
  auxiliaryRows : ∀ pool ∈ layout.pools, pool.provisioning = .auxiliary →
    0 < pool.rows.size ∧ 0 ∉ pool.rows
  withinBudget : ∀ node < layout.cluster.nodes.toNat,
    layout.demand node ≤ layout.cluster.devicesPerNode.toNat

theorem firstRepeat_eq_none_iff {seen names : List String} :
    firstRepeat seen names = none ↔ names.Nodup ∧ ∀ name ∈ names, name ∉ seen := by
  induction names generalizing seen with
  | nil => simp [firstRepeat]
  | cons name rest ih =>
    by_cases known : name ∈ seen
    · simp [firstRepeat, known]
    · simp only [firstRepeat, if_neg known, ih, List.nodup_cons, List.mem_cons, not_or]
      constructor
      · rintro ⟨distinct, fresh⟩
        refine ⟨⟨fun again => (fresh name again).1 rfl, distinct⟩, ?_⟩
        rintro other (rfl | later)
        · exact known
        · exact (fresh other later).2
      · rintro ⟨⟨once, distinct⟩, fresh⟩
        refine ⟨distinct, fun other later => ⟨?_, fresh other (.inr later)⟩⟩
        rintro rfl
        exact once later

theorem nameFault_eq_none_iff {layout : Layout} :
    layout.nameFault = none ↔ layout.names.Nodup := by
  simp [nameFault, names, firstRepeat_eq_none_iff]

theorem bindingFault_eq_none_iff {layout : Layout} {bindings : Bindings} :
    layout.bindingFault bindings = none ↔
      ∀ role name, bindings.get role = some name → name ∈ layout.names := by
  simp [bindingFault, Bindings.mem_toList, declares_iff]

theorem mem_primaryPools {layout : Layout} {pool : Pool} :
    pool ∈ layout.primaryPools ↔ pool ∈ layout.pools ∧ pool.provisioning = .primary := by
  cases kind : pool.provisioning <;> simp [primaryPools, Pool.isAuxiliary, kind]

theorem forall_mem_primaryPools {layout : Layout} {holds : Pool → Prop} :
    (∀ pool ∈ layout.primaryPools, holds pool) ↔
      ∀ pool ∈ layout.pools, pool.provisioning = .primary → holds pool := by
  simp only [mem_primaryPools, and_imp]

theorem rowFault_eq_none_iff {layout : Layout} {pool : Pool} :
    layout.rowFault pool = none ↔
      (pool.provisioning = .primary → pool.rows.size = layout.cluster.nodes.toNat) ∧
      (pool.provisioning = .auxiliary → 0 < pool.rows.size ∧ 0 ∉ pool.rows) := by
  cases kind : pool.provisioning with
  | primary => simp [rowFault, Pool.isAuxiliary, kind]
  | auxiliary => simp [rowFault, Pool.isAuxiliary, kind, Array.size_pos_iff]

theorem shapeFault_eq_none_iff {layout : Layout} :
    layout.shapeFault = none ↔
      (∀ pool ∈ layout.pools, pool.provisioning = .primary →
        pool.rows.size = layout.cluster.nodes.toNat) ∧
      (∀ pool ∈ layout.pools, pool.provisioning = .auxiliary →
        0 < pool.rows.size ∧ 0 ∉ pool.rows) := by
  simp only [shapeFault, List.findSome?_eq_none_iff, rowFault_eq_none_iff, forall_and]

/-! ## Budgets -/

theorem mapM_row {pools : List Pool} {node : Nat} (rows : ∀ pool ∈ pools, node < pool.rows.size) :
    (pools.mapM fun pool => pool.rows[node]?) =
      some (pools.map fun pool => pool.rows.getD node 0) := by
  induction pools with
  | nil => rfl
  | cons pool rest ih =>
    have here : pool.rows[node]? = some (pool.rows.getD node 0) := by
      have inside := rows pool List.mem_cons_self
      simp [Array.getD, inside]
    have later := ih fun other member => rows other (List.mem_cons_of_mem pool member)
    rw [List.mapM_cons, here, later]
    rfl

theorem load?_of_rows {layout : Layout} {node : Nat}
    (rows : ∀ pool ∈ layout.primaryPools, node < pool.rows.size) :
    layout.load? node = some (deviceSum
      ((layout.primaryPools.map fun pool => pool.rows.getD node 0).map UInt32.toUInt64)) := by
  rw [load?, mapM_row rows, Option.map_some]

theorem length_primaryPools_le (layout : Layout) :
    layout.primaryPools.length ≤ layout.pools.length :=
  List.length_filter_le _ _

theorem load?_exact {layout : Layout} {node : Nat} (few : layout.pools.length ≤ 2 ^ 32)
    (rows : ∀ pool ∈ layout.primaryPools, node < pool.rows.size) :
    ∃ requested, layout.load? node = some requested ∧
      requested.toNat = layout.demand node := by
  refine ⟨_, load?_of_rows rows, ?_⟩
  rw [toNat_deviceSum_rows _ (by simpa using layout.length_primaryPools_le.trans few), demand,
    List.map_map]
  rfl

theorem budgetFault_eq_none_iff {layout : Layout} (few : layout.pools.length ≤ 2 ^ 32)
    (rows : ∀ pool ∈ layout.primaryPools, pool.rows.size = layout.cluster.nodes.toNat) :
    layout.budgetFault = none ↔ ∀ node < layout.cluster.nodes.toNat,
      layout.demand node ≤ layout.cluster.devicesPerNode.toNat := by
  simp only [budgetFault, List.findSome?_eq_none_iff, List.mem_range]
  refine forall₂_congr fun node inside => ?_
  obtain ⟨requested, loaded, exactly⟩ :=
    load?_exact few fun pool member => (rows pool member).symm ▸ inside
  simp [loaded, ← exactly, UInt64.lt_iff_toNat_lt]

theorem fault_eq_none_iff {layout : Layout} {bindings : Bindings} :
    layout.fault bindings = none ↔ layout.nameFault = none ∧
      layout.bindingFault bindings = none ∧ layout.shapeFault = none ∧
      layout.budgetFault = none := by
  simp [fault]

theorem fault_eq_none_iff_admits {layout : Layout} {bindings : Bindings}
    (few : layout.pools.length ≤ 2 ^ 32) :
    layout.fault bindings = none ↔ layout.Admits bindings := by
  rw [fault_eq_none_iff, nameFault_eq_none_iff, bindingFault_eq_none_iff, shapeFault_eq_none_iff]
  constructor
  · rintro ⟨distinct, declared, ⟨primaryRows, auxiliaryRows⟩, budget⟩
    have rows := forall_mem_primaryPools.mpr primaryRows
    exact ⟨distinct, declared, primaryRows, auxiliaryRows,
      (budgetFault_eq_none_iff few rows).mp budget⟩
  · intro admits
    have rows := forall_mem_primaryPools.mpr admits.primaryRows
    exact ⟨admits.distinct, admits.declared, ⟨admits.primaryRows, admits.auxiliaryRows⟩,
      (budgetFault_eq_none_iff few rows).mpr admits.withinBudget⟩

theorem bindingFault_of_fault {layout : Layout} {bindings : Bindings} {role : Role}
    {name : String} (found : layout.fault bindings = some (.unknownPool role name)) :
    layout.bindingFault bindings = some (.unknownPool role name) := by
  simp only [fault, Option.orElse_eq_orElse, Option.orElse_eq_or, Option.or_eq_some_iff] at found
  obtain repeated | ⟨-, unbound | ⟨-, misshapen | ⟨-, overloaded⟩⟩⟩ := found
  · obtain ⟨again, -, impossible⟩ := Option.map_eq_some_iff.mp repeated
    cases impossible
  · exact unbound
  · obtain ⟨pool, -, wrong⟩ := List.exists_of_findSome?_eq_some misshapen
    unfold rowFault at wrong
    split at wrong <;> split at wrong <;> cases wrong
  · obtain ⟨node, -, wrong⟩ := List.exists_of_findSome?_eq_some overloaded
    obtain ⟨requested, -, wrong⟩ := Option.bind_eq_some_iff.mp wrong
    split at wrong <;> cases wrong

/-! ## Rows that are looked at -/

def walkBudgets? (layout : Layout) : List Nat → Option (Option PlanError)
  | [] => some none
  | node :: rest =>
    match layout.load? node with
    | none => none
    | some requested =>
      if layout.cluster.devicesPerNode.toUInt64 < requested then
        some (some (.overAllocation node requested layout.cluster.devicesPerNode))
      else layout.walkBudgets? rest

theorem walkBudgets?_eq_some {layout : Layout} {nodes : List Nat}
    (rows : ∀ node ∈ nodes, ∀ pool ∈ layout.primaryPools, node < pool.rows.size) :
    layout.walkBudgets? nodes = some (nodes.findSome? fun node =>
      (layout.load? node).bind fun requested =>
        if layout.cluster.devicesPerNode.toUInt64 < requested then
          some (.overAllocation node requested layout.cluster.devicesPerNode)
        else none) := by
  induction nodes with
  | nil => rfl
  | cons node rest ih =>
    have loaded := load?_of_rows (rows node List.mem_cons_self)
    have later := ih fun other member => rows other (List.mem_cons_of_mem node member)
    simp only [walkBudgets?, List.findSome?_cons, loaded, Option.bind_some, later]
    split <;> rfl

end Layout

namespace Plan

/-- Freezing, except that to look at a row that a pool does not have ends it without an answer. -/
def freezeStrictly? (layout : Layout) (bindings : Bindings) : Option (Except PlanError Plan) :=
  match layout.nameFault <|> layout.bindingFault bindings <|> layout.shapeFault with
  | some error => some (.error error)
  | none =>
    match layout.walkBudgets? (List.range layout.cluster.nodes.toNat) with
    | none => none
    | some (some error) => some (.error error)
    | some none => some (.ok ⟨layout.cluster, layout.pools, bindings⟩)

theorem freeze_eq_ok_iff {layout : Layout} {bindings : Bindings} {plan : Plan} :
    freeze layout bindings = .ok plan ↔
      layout.fault bindings = none ∧ plan = ⟨layout.cluster, layout.pools, bindings⟩ := by
  unfold freeze
  cases layout.fault bindings <;> simp [eq_comm]

theorem freeze_eq_error_iff {layout : Layout} {bindings : Bindings} {error : PlanError} :
    freeze layout bindings = .error error ↔ layout.fault bindings = some error := by
  unfold freeze
  cases layout.fault bindings <;> simp

theorem freeze_ne_unknownPool {layout : Layout} {bindings : Bindings}
    (declared : ∀ role name, bindings.get role = some name → name ∈ layout.names) (role : Role)
    (name : String) : freeze layout bindings ≠ .error (.unknownPool role name) := by
  intro failed
  have unbound := Layout.bindingFault_of_fault (freeze_eq_error_iff.mp failed)
  rw [Layout.bindingFault_eq_none_iff.mpr declared] at unbound
  cases unbound

theorem freezeStrictly?_eq (layout : Layout) (bindings : Bindings) :
    freezeStrictly? layout bindings = some (freeze layout bindings) := by
  have faults : layout.fault bindings =
      ((layout.nameFault <|> layout.bindingFault bindings <|> layout.shapeFault) <|>
        layout.budgetFault) := by
    simp [Layout.fault, Option.or_assoc]
  unfold freezeStrictly? freeze
  rw [faults]
  cases early : (layout.nameFault <|> layout.bindingFault bindings <|> layout.shapeFault) with
  | some error => simp
  | none =>
    -- The shape check has passed, so every primary pool has a row for every node of the walk.
    have shaped : layout.shapeFault = none := by simp_all
    have sizes := Layout.forall_mem_primaryPools.mpr (Layout.shapeFault_eq_none_iff.mp shaped).1
    have rows : ∀ node ∈ List.range layout.cluster.nodes.toNat, ∀ pool ∈ layout.primaryPools,
        node < pool.rows.size := by
      intro node inside pool member
      rw [sizes pool member]
      exact List.mem_range.mp inside
    have walked : layout.walkBudgets? (List.range layout.cluster.nodes.toNat) =
        some layout.budgetFault := Layout.walkBudgets?_eq_some rows
    rw [walked]
    cases layout.budgetFault <;> simp

/-! ## The statement -/

theorem freeze_exactly_admitted (layout : Layout) (bindings : Bindings)
    (few : layout.pools.length ≤ 2 ^ 32) :
    ((∃ plan, freeze layout bindings = .ok plan) ↔ layout.Admits bindings) ∧
    (∀ plan, freeze layout bindings = .ok plan →
      plan.cluster = layout.cluster ∧ plan.pools = layout.pools ∧ plan.bindings = bindings) ∧
    freezeStrictly? layout bindings = some (freeze layout bindings) := by
  refine ⟨?_, ?_, freezeStrictly?_eq layout bindings⟩
  · rw [← Layout.fault_eq_none_iff_admits few]
    constructor
    · rintro ⟨plan, frozen⟩
      exact (freeze_eq_ok_iff.mp frozen).1
    · intro faultless
      exact ⟨_, freeze_eq_ok_iff.mpr ⟨faultless, rfl⟩⟩
  · intro plan frozen
    obtain ⟨-, rfl⟩ := freeze_eq_ok_iff.mp frozen
    exact ⟨rfl, rfl, rfl⟩

def fullNodes : Layout :=
  ⟨⟨2, 4, by decide, by decide, by decide⟩,
    [⟨"first", #[1, 3], .primary⟩, ⟨"own", #[8], .auxiliary⟩, ⟨"second", #[3, 1], .primary⟩]⟩

theorem freeze_fullNodes : freeze fullNodes (.split "first" "second") =
    .ok ⟨fullNodes.cluster, fullNodes.pools, .split "first" "second"⟩ := by
  have faultless : fullNodes.fault (.split "first" "second") = none := by decide +kernel
  exact freeze_eq_ok_iff.mpr ⟨faultless, rfl⟩

theorem fullNodes_admits : fullNodes.pools.length ≤ 2 ^ 32 ∧
    (∃ plan, freeze fullNodes (.split "first" "second") = .ok plan) ∧
    fullNodes.Admits (.split "first" "second") := by
  have frozen : ∃ plan, freeze fullNodes (.split "first" "second") = .ok plan :=
    ⟨_, freeze_fullNodes⟩
  exact ⟨by decide, frozen, (freeze_exactly_admitted _ _ (by decide)).1.mp frozen⟩

end Plan

end DevicePlan
