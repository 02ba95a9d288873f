import DevicePlan.Proofs.Bindings
import DevicePlan.Proofs.Freeze

namespace DevicePlan

theorem findSome?_eq_some_iff_least {α β : Type} {below : α → α → Prop}
    (asymmetric : ∀ {a b}, below a b → ¬below b a) {entries : List α}
    (ascends : entries.Pairwise below) {test : α → Option β} {result : β} :
    entries.findSome? test = some result ↔ ∃ entry ∈ entries, test entry = some result ∧
      ∀ lesser ∈ entries, below lesser entry → test lesser = none := by
  rw [List.findSome?_eq_some_iff]
  constructor
  · rintro ⟨before, entry, after, rfl, found, earlier⟩
    refine ⟨entry, by simp, found, fun lesser member less => ?_⟩
    rcases List.mem_append.mp member with member | member
    · exact earlier lesser member
    · rcases List.mem_cons.mp member with rfl | member
      · exact absurd less (asymmetric less)
      · have greater := (List.pairwise_cons.mp (List.pairwise_append.mp ascends).2.1).1
        exact absurd less (asymmetric (greater lesser member))
  · rintro ⟨entry, member, found, least⟩
    obtain ⟨before, after, rfl⟩ := List.append_of_mem member
    refine ⟨before, entry, after, rfl, found, fun lesser earlier => ?_⟩
    have less := (List.pairwise_append.mp ascends).2.2 lesser earlier entry List.mem_cons_self
    exact least lesser (List.mem_append_left _ earlier) less

namespace Layout

def Hosts (layout : Layout) (bindings : Bindings) : Prop :=
  ∀ role name, bindings.get role = some name → name ∈ layout.names

def Shaped (layout : Layout) (pool : Pool) : Prop :=
  (pool.provisioning = .primary → pool.rows.size = layout.cluster.nodes.toNat) ∧
    (pool.provisioning = .auxiliary → 0 < pool.rows.size ∧ 0 ∉ pool.rows)

inductive FirstFault (layout : Layout) (bindings : Bindings) : PlanError → Prop where
  | duplicate {before after : List Pool} {pool : Pool}
    (pools : layout.pools = before ++ pool :: after)
    (distinct : (before.map Pool.name).Nodup)
    (again : pool.name ∈ before.map Pool.name) :
    FirstFault layout bindings (.duplicatePool pool.name)
  | unknown {role : Role} {name : String} (distinct : layout.names.Nodup)
    (least : ∀ lesser < role, ∀ other, bindings.get lesser = some other → other ∈ layout.names)
    (bound : bindings.get role = some name) (undeclared : name ∉ layout.names) :
    FirstFault layout bindings (.unknownPool role name)
  | emptyNode {before after : List Pool} {pool : Pool} (distinct : layout.names.Nodup)
    (hosts : layout.Hosts bindings) (pools : layout.pools = before ++ pool :: after)
    (earlier : ∀ other ∈ before, layout.Shaped other)
    (auxiliary : pool.provisioning = .auxiliary) (empty : pool.rows.size = 0 ∨ 0 ∈ pool.rows) :
    FirstFault layout bindings (.invalidAuxiliary (.emptyNode pool.name))
  | rowCount {before after : List Pool} {pool : Pool} (distinct : layout.names.Nodup)
    (hosts : layout.Hosts bindings) (pools : layout.pools = before ++ pool :: after)
    (earlier : ∀ other ∈ before, layout.Shaped other)
    (primary : pool.provisioning = .primary)
    (different : pool.rows.size ≠ layout.cluster.nodes.toNat) :
    FirstFault layout bindings
      (.rowMismatch pool.name layout.cluster.nodes.toNat pool.rows.size)
  | overloaded {node : Nat} {requested : UInt64} (distinct : layout.names.Nodup)
    (hosts : layout.Hosts bindings) (shaped : ∀ pool ∈ layout.pools, layout.Shaped pool)
    (inside : node < layout.cluster.nodes.toNat)
    (least : ∀ lesser < node, layout.demand lesser ≤ layout.cluster.devicesPerNode.toNat)
    (exactly : requested.toNat = layout.demand node)
    (exceeds : layout.cluster.devicesPerNode.toNat < layout.demand node) :
    FirstFault layout bindings
      (.overAllocation node requested layout.cluster.devicesPerNode)

theorem firstRepeat_eq_some_iff {seen names : List String} {name : String} :
    firstRepeat seen names = some name ↔ ∃ before after, names = before ++ name :: after ∧
      firstRepeat seen before = none ∧ (name ∈ seen ∨ name ∈ before) := by
  induction names generalizing seen with
  | nil => simp [firstRepeat]
  | cons first rest ih =>
    by_cases known : first ∈ seen
    · simp only [firstRepeat, if_pos known, Option.some.injEq]
      constructor
      · rintro rfl
        exact ⟨[], rest, rfl, rfl, .inl known⟩
      · rintro ⟨before, after, same, fresh, -⟩
        cases before with
        | nil => exact (List.cons.inj same).1
        | cons other before =>
          obtain ⟨rfl, -⟩ := List.cons.inj same
          simp [firstRepeat, known] at fresh
    · simp only [firstRepeat, if_neg known, ih]
      constructor
      · rintro ⟨before, after, rfl, fresh, again⟩
        refine ⟨first :: before, after, rfl, by simpa [firstRepeat, known] using fresh, ?_⟩
        rcases again with again | again
        · rcases List.mem_cons.mp again with rfl | again
          · exact .inr List.mem_cons_self
          · exact .inl again
        · exact .inr (List.mem_cons_of_mem first again)
      · rintro ⟨before, after, same, fresh, again⟩
        cases before with
        | nil =>
          obtain ⟨rfl, -⟩ := List.cons.inj same
          simp [known] at again
        | cons other before =>
          obtain ⟨rfl, rest⟩ := List.cons.inj same
          refine ⟨before, after, rest, by simpa [firstRepeat, known] using fresh, ?_⟩
          simpa [or_assoc, or_left_comm] using again

theorem nameFault_eq_some_iff {layout : Layout} {error : PlanError} :
    layout.nameFault = some error ↔ ∃ before pool after,
      layout.pools = before ++ pool :: after ∧ (before.map Pool.name).Nodup ∧
        pool.name ∈ before.map Pool.name ∧ error = .duplicatePool pool.name := by
  simp only [nameFault, Option.map_eq_some_iff, firstRepeat_eq_some_iff, firstRepeat_eq_none_iff,
    List.not_mem_nil, not_false_eq_true, implies_true, and_true, false_or]
  constructor
  · rintro ⟨name, ⟨before, after, split, distinct, again⟩, rfl⟩
    obtain ⟨earlier, others, pools, rfl, rest⟩ := List.map_eq_append_iff.mp split
    obtain ⟨pool, later, rfl, rfl, -⟩ := List.map_eq_cons_iff.mp rest
    exact ⟨earlier, pool, later, pools, distinct, again, rfl⟩
  · rintro ⟨before, pool, after, pools, distinct, again, rfl⟩
    exact ⟨pool.name, ⟨before.map Pool.name, after.map Pool.name, by simp [pools], distinct, again⟩,
      rfl⟩

theorem bindingFault_eq_some_iff {layout : Layout} {bindings : Bindings} {error : PlanError} :
    layout.bindingFault bindings = some error ↔ ∃ role name, bindings.get role = some name ∧
      name ∉ layout.names ∧ error = .unknownPool role name ∧
      ∀ lesser < role, ∀ other, bindings.get lesser = some other → other ∈ layout.names := by
  have asymmetric {entry next : Role × String} (less : entry.1 < next.1) : ¬next.1 < entry.1 :=
    Nat.lt_asymm less
  rw [bindingFault, findSome?_eq_some_iff_least asymmetric bindings.ascends_toList]
  simp only [Prod.exists, Prod.forall, Bindings.mem_toList, ← declares_iff]
  refine exists_congr fun role => exists_congr fun name => and_congr_right fun _ => ?_
  have least : (∀ lesser other, bindings.get lesser = some other → lesser < role →
      (if layout.declares other then none else some (PlanError.unknownPool lesser other)) = none) ↔
      ∀ lesser < role, ∀ other, bindings.get lesser = some other →
        layout.declares other = true := by
    constructor
    · intro least lesser less other bound
      simpa using least lesser other bound less
    · intro least lesser other bound less
      simpa using least lesser less other bound
  rw [least]
  by_cases declared : layout.declares name = true
  · simp [declared]
  · simp [declared, @eq_comm _ error]

theorem rowFault_eq_some_iff {layout : Layout} {pool : Pool} {error : PlanError} :
    layout.rowFault pool = some error ↔
      (pool.provisioning = .auxiliary ∧ (pool.rows.size = 0 ∨ 0 ∈ pool.rows) ∧
        error = .invalidAuxiliary (.emptyNode pool.name)) ∨
      (pool.provisioning = .primary ∧ pool.rows.size ≠ layout.cluster.nodes.toNat ∧
        error = .rowMismatch pool.name layout.cluster.nodes.toNat pool.rows.size) := by
  cases kind : pool.provisioning with
  | primary => simp [rowFault, Pool.isAuxiliary, kind, @eq_comm _ error]
  | auxiliary => simp [rowFault, Pool.isAuxiliary, kind, @eq_comm _ error]

theorem shapeFault_eq_some_iff {layout : Layout} {error : PlanError} :
    layout.shapeFault = some error ↔ ∃ before pool after,
      layout.pools = before ++ pool :: after ∧ layout.rowFault pool = some error ∧
        ∀ other ∈ before, layout.Shaped other := by
  simp only [shapeFault, List.findSome?_eq_some_iff, rowFault_eq_none_iff, Shaped]

theorem budgetFault_eq_some_iff {layout : Layout} (few : layout.pools.length ≤ 2 ^ 32)
    (rows : ∀ pool ∈ layout.primaryPools, pool.rows.size = layout.cluster.nodes.toNat)
    {error : PlanError} :
    layout.budgetFault = some error ↔ ∃ node requested, node < layout.cluster.nodes.toNat ∧
      requested.toNat = layout.demand node ∧
      layout.cluster.devicesPerNode.toNat < layout.demand node ∧
      error = .overAllocation node requested layout.cluster.devicesPerNode ∧
      ∀ lesser < node, layout.demand lesser ≤ layout.cluster.devicesPerNode.toNat := by
  have loads {node : Nat} (inside : node < layout.cluster.nodes.toNat) :
      ∃ requested, layout.load? node = some requested ∧ requested.toNat = layout.demand node :=
    load?_exact few fun pool member => (rows pool member).symm ▸ inside
  rw [budgetFault, findSome?_eq_some_iff_least Nat.lt_asymm List.pairwise_lt_range]
  simp only [List.mem_range]
  refine exists_congr fun node => ?_
  constructor
  · rintro ⟨inside, found, least⟩
    obtain ⟨requested, loaded, exactly⟩ := loads inside
    simp only [loaded, Option.bind_some, UInt64.lt_iff_toNat_lt, exactly] at found
    split at found
    · rename_i exceeds
      cases found
      refine ⟨requested, inside, exactly, by simpa using exceeds, rfl, fun lesser less => ?_⟩
      obtain ⟨fewer, loaded, exactly⟩ := loads (less.trans inside)
      have enough := least lesser (less.trans inside) less
      simpa [loaded, UInt64.lt_iff_toNat_lt, exactly] using enough
    · cases found
  · rintro ⟨requested, inside, exactly, exceeds, rfl, least⟩
    refine ⟨inside, ?_, fun lesser known less => ?_⟩
    · obtain ⟨_, loaded, same⟩ := loads inside
      obtain rfl := UInt64.toNat_inj.mp (exactly.trans same.symm)
      simpa [loaded, UInt64.lt_iff_toNat_lt, exactly] using exceeds
    · obtain ⟨fewer, loaded, exactly⟩ := loads known
      simpa [loaded, UInt64.lt_iff_toNat_lt, exactly] using least lesser less

theorem fault_eq_some_iff {layout : Layout} {bindings : Bindings} {error : PlanError} :
    layout.fault bindings = some error ↔ layout.nameFault = some error ∨
      layout.nameFault = none ∧ (layout.bindingFault bindings = some error ∨
        layout.bindingFault bindings = none ∧ (layout.shapeFault = some error ∨
          layout.shapeFault = none ∧ layout.budgetFault = some error)) := by
  simp only [fault, Option.orElse_eq_orElse, Option.orElse_eq_or, Option.or_eq_some_iff]

theorem fault_eq_some_iff_firstFault {layout : Layout} {bindings : Bindings} {error : PlanError}
    (few : layout.pools.length ≤ 2 ^ 32) :
    layout.fault bindings = some error ↔ layout.FirstFault bindings error := by
  have budget (shaped : ∀ pool ∈ layout.pools, layout.Shaped pool) :=
    @budgetFault_eq_some_iff layout few
      (forall_mem_primaryPools.mpr fun pool member => (shaped pool member).1) error
  have shape : layout.shapeFault = none ↔ ∀ pool ∈ layout.pools, layout.Shaped pool := by
    simp only [shapeFault, List.findSome?_eq_none_iff, rowFault_eq_none_iff, Shaped]
  rw [fault_eq_some_iff, nameFault_eq_none_iff, bindingFault_eq_none_iff, shape]
  constructor
  · rintro (repeated | ⟨distinct, unbound | ⟨hosts, misshapen | ⟨shaped, overloaded⟩⟩⟩)
    · obtain ⟨before, pool, after, pools, fresh, again, rfl⟩ := nameFault_eq_some_iff.mp repeated
      exact .duplicate pools fresh again
    · obtain ⟨role, name, bound, undeclared, rfl, least⟩ := bindingFault_eq_some_iff.mp unbound
      exact .unknown distinct least bound undeclared
    · obtain ⟨before, pool, after, pools, wrong, earlier⟩ := shapeFault_eq_some_iff.mp misshapen
      rcases rowFault_eq_some_iff.mp wrong with ⟨kind, empty, rfl⟩ | ⟨kind, different, rfl⟩
      · exact .emptyNode distinct hosts pools earlier kind empty
      · exact .rowCount distinct hosts pools earlier kind different
    · obtain ⟨node, requested, inside, exactly, exceeds, rfl, least⟩ :=
        (budget shaped).mp overloaded
      exact .overloaded distinct hosts shaped inside least exactly exceeds
  · intro first
    cases first with
    | duplicate pools fresh again =>
      exact .inl (nameFault_eq_some_iff.mpr ⟨_, _, _, pools, fresh, again, rfl⟩)
    | unknown distinct least bound undeclared =>
      refine .inr ⟨distinct, .inl ?_⟩
      exact bindingFault_eq_some_iff.mpr ⟨_, _, bound, undeclared, rfl, least⟩
    | emptyNode distinct hosts pools earlier kind empty =>
      refine .inr ⟨distinct, .inr ⟨hosts, .inl ?_⟩⟩
      exact shapeFault_eq_some_iff.mpr ⟨_, _, _, pools,
        rowFault_eq_some_iff.mpr (.inl ⟨kind, empty, rfl⟩), earlier⟩
    | rowCount distinct hosts pools earlier kind different =>
      refine .inr ⟨distinct, .inr ⟨hosts, .inl ?_⟩⟩
      exact shapeFault_eq_some_iff.mpr ⟨_, _, _, pools,
        rowFault_eq_some_iff.mpr (.inr ⟨kind, different, rfl⟩), earlier⟩
    | overloaded distinct hosts shaped inside least exactly exceeds =>
      refine .inr ⟨distinct, .inr ⟨hosts, .inr ⟨shaped, ?_⟩⟩⟩
      exact (budget shaped).mpr ⟨_, _, inside, exactly, exceeds, rfl, least⟩

end Layout

namespace Plan

theorem freeze_fails_with_first_fault (layout : Layout) (bindings : Bindings)
    (few : layout.pools.length ≤ 2 ^ 32) :
    (∀ error, freeze layout bindings = .error error ↔ layout.FirstFault bindings error) ∧
    (∀ fault, freeze layout bindings ≠ .error (.invalidCluster fault)) ∧
    (∀ role, freeze layout bindings ≠ .error (.unboundRole role)) ∧
    ∀ text, freeze layout bindings ≠ .error (.unknownRoleName text) := by
  have first (error : PlanError) :
      freeze layout bindings = .error error ↔ layout.FirstFault bindings error := by
    rw [freeze_eq_error_iff, Layout.fault_eq_some_iff_firstFault few]
  refine ⟨first, fun fault failed => ?_, fun role failed => ?_, fun text failed => ?_⟩
  · cases (first _).mp failed
  · cases (first _).mp failed
  · cases (first _).mp failed

def crowded : Layout :=
  ⟨⟨5, 8, by decide, by decide, by decide⟩,
    [⟨"first", #[4, 8, 5, 0, 9], .primary⟩, ⟨"own", #[16], .auxiliary⟩,
      ⟨"second", #[4, 0, 4, 8, 0], .primary⟩]⟩

theorem freeze_crowded : crowded.pools.length ≤ 2 ^ 32 ∧
    crowded.FirstFault (.split "first" "own") (.overAllocation 2 9 8) ∧
    freeze crowded (.split "first" "own") ≠ .error (.unboundRole .rewardModel) := by
  have failed : freeze crowded (.split "first" "own") = .error (.overAllocation 2 9 8) := by
    decide +kernel
  obtain ⟨first, -, bound, -⟩ :=
    freeze_fails_with_first_fault crowded (.split "first" "own") (by decide)
  exact ⟨by decide, (first _).mp failed, bound .rewardModel⟩

end Plan

end DevicePlan
