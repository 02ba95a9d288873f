import DevicePlan.Proofs.Devices
import DevicePlan.Proofs.Plan.Text
import DevicePlan.Proofs.Text.Words
import DevicePlan.Report

/-!
# Reports agree with their plans

A report prints some figures and, for each pool, a block (`Sheet.text`). They can be read off it in
one way only, once the names of the pools are known (`Sheet.text_inj`), and they agree with one
another and with the plan (`report_agrees`): the figures of the blocks add up to those of the
header, and a role stands in the block of the pool that it resolves to.
-/

namespace DevicePlan

@[ext]
structure Sheet.Block where
  name : String
  provisioning : Provisioning
  rows : List Nat
  devices : Nat
  roles : List Role

@[ext]
structure Sheet where
  nodes : Nat
  devicesPerNode : Nat
  clusterDevices : Nat
  primary : Nat
  total : Nat
  count : Nat
  blocks : List Sheet.Block

namespace Sheet

def Block.text (block : Block) : String :=
  ("  • " ++ block.name ++ " [" ++ block.provisioning.name ++ "] " ++
      ("[" ++ ", ".intercalate (block.rows.map toString) ++ "]") ++ " ") ++
    ("(" ++ toString block.devices ++ " devices)\n") ++
    ("      roles: " ++ Plan.describeRoles block.roles ++ "\n")

def header (sheet : Sheet) : String :=
  ("Cluster: " ++ toString sheet.nodes ++ " node(s) x " ++ toString sheet.devicesPerNode ++ " ") ++
    ("device(s) = " ++ toString sheet.clusterDevices ++ " devices\n") ++
    ("Allocated: " ++ toString sheet.primary ++ " primary, " ++ toString sheet.total ++
      " total\n\n") ++
    ("Pools (" ++ toString sheet.count ++ "):\n")

def text (sheet : Sheet) : String := sheet.header ++ String.join (sheet.blocks.map Block.text)

end Sheet

namespace Plan

def block (plan : Plan) (pool : Pool) : Sheet.Block where
  name := pool.name
  provisioning := pool.provisioning
  rows := pool.rows.toList.map UInt32.toNat
  devices := pool.totalDevices.toNat
  roles := plan.bindings.rolesOf pool.name

def sheet (plan : Plan) : Sheet where
  nodes := plan.cluster.nodes.toNat
  devicesPerNode := plan.cluster.devicesPerNode.toNat
  clusterDevices := plan.cluster.totalDevices.toNat
  primary := plan.primaryDevices.toNat
  total := plan.totalDevices.toNat
  count := plan.pools.length
  blocks := plan.pools.map plan.block

theorem text_block (plan : Plan) (pool : Pool) :
    (plan.block pool).text = reportPool pool (plan.bindings.rolesOf pool.name) := by
  have rows : pool.describeRows =
      "[" ++ ", ".intercalate ((pool.rows.toList.map UInt32.toNat).map toString) ++ "]" := by
    rw [Pool.describeRows, List.map_map]
    rfl
  unfold reportPool
  rw [rows]
  rfl

theorem report_eq (plan : Plan) : plan.report = plan.sheet.text := by
  have blocks : (plan.sheet.blocks.map Sheet.Block.text) =
      plan.rolesByPool.map fun entry => reportPool entry.1 entry.2 := by
    simp only [sheet, rolesByPool, List.map_map]
    exact List.map_congr_left fun pool _ => plan.text_block pool
  rw [Sheet.text, blocks]
  rfl

end Plan

/-! ## Reading a report -/

def isNameChar (c : Char) : Bool := c.isAlpha || c == '_'

theorem Role.isNameChar_name (role : Role) : ∀ c ∈ role.name.toList, isNameChar c = true := by
  apply List.all_eq_true.mp
  cases role <;> rfl

theorem Role.name_ne_empty (role : Role) : role.name ≠ "" := by
  cases role <;> decide

theorem Provisioning.isNameChar_name (provisioning : Provisioning) :
    ∀ c ∈ provisioning.name.toList, isNameChar c = true := by
  apply List.all_eq_true.mp
  cases provisioning <;> rfl

theorem Plan.describeRoles_cons_ne (role : Role) (roles : List Role) (rest otherRest : List Char) :
    (describeRoles (role :: roles)).toList ++ rest ≠ '(' :: otherRest := by
  rw [describeRoles, List.isEmpty_cons, if_neg Bool.false_ne_true, List.map_cons,
    toList_commas_cons, List.append_assoc]
  exact append_ne_cons rfl role.isNameChar_name role.name_ne_empty _ _

theorem Plan.describeRoles_eq_none_iff {roles : List Role} :
    describeRoles roles = "(none)" ↔ roles = [] := by
  constructor
  · intro none
    cases roles with
    | nil => rfl
    | cons role roles =>
      have bracket := congrArg String.toList none
      rw [← List.append_nil (describeRoles (role :: roles)).toList] at bracket
      exact absurd bracket (describeRoles_cons_ne role roles [] _)
  · rintro rfl
    rfl

namespace Sheet

theorem describeRoles_append_inj {roles others : List Role} {rest otherRest : List Char}
    (same : (Plan.describeRoles roles).toList ++ ("\n".toList ++ rest) =
      (Plan.describeRoles others).toList ++ ("\n".toList ++ otherRest)) :
    roles = others ∧ rest = otherRest := by
  cases roles with
  | nil =>
    cases others with
    | nil => exact ⟨rfl, List.append_cancel_left (List.append_cancel_left same)⟩
    | cons other others => exact absurd same.symm (Plan.describeRoles_cons_ne _ _ _ _)
  | cons role roles =>
    cases others with
    | nil => exact absurd same (Plan.describeRoles_cons_ne _ _ _ _)
    | cons other others =>
      exact listed_append_inj rfl rfl (by decide) rfl (fun _ _ => Role.name_inj.mp)
        Role.isNameChar_name Role.name_ne_empty same

theorem Block.text_append_inj {block other : Block} {rest otherRest : List Char}
    (named : block.name = other.name)
    (same : block.text.toList ++ rest = other.text.toList ++ otherRest) :
    block = other ∧ rest = otherRest := by
  unfold text at same
  simp only [String.toList_append, List.append_assoc, named, List.append_cancel_left_eq] at same
  obtain ⟨provisioning, same⟩ := word_append_inj rfl rfl
    block.provisioning.isNameChar_name other.provisioning.isNameChar_name same
  obtain ⟨rows, same⟩ := numbers_append_inj rfl rfl (by decide)
    (List.append_cancel_left same)
  obtain ⟨devices, same⟩ := number_append_inj rfl rfl
    (List.append_cancel_left (List.append_cancel_left same))
  obtain ⟨roles, rests⟩ := describeRoles_append_inj (List.append_cancel_left same)
  exact ⟨Block.ext named (Provisioning.name_inj.mp provisioning) rows devices roles, rests⟩

theorem blocks_inj {blocks others : List Block}
    (named : blocks.map Block.name = others.map Block.name)
    (same : (String.join (blocks.map Block.text)) = String.join (others.map Block.text)) :
    blocks = others := by
  induction blocks generalizing others with
  | nil => exact (List.map_eq_nil_iff.mp named.symm).symm
  | cons block blocks ih =>
    cases others with
    | nil => cases named
    | cons other others =>
      obtain ⟨name, names⟩ := List.cons.inj named
      rw [List.map_cons, List.map_cons, String.join_cons, String.join_cons,
        ← String.toList_inj, String.toList_append, String.toList_append] at same
      obtain ⟨rfl, rests⟩ := Block.text_append_inj name same
      rw [ih names (String.toList_inj.mp rests)]

/-- A report can be read in one way only, once the names of the pools are known. -/
theorem text_inj {sheet other : Sheet}
    (named : sheet.blocks.map Block.name = other.blocks.map Block.name)
    (same : sheet.text = other.text) : sheet = other := by
  rw [← String.toList_inj] at same
  unfold text header at same
  simp only [String.toList_append, List.append_assoc, List.append_cancel_left_eq] at same
  -- From the left, each figure ends where the text after it begins, and both can be taken off.
  obtain ⟨nodes, same⟩ := number_append_inj rfl rfl same
  obtain ⟨devicesPerNode, same⟩ := number_append_inj rfl rfl same
  obtain ⟨clusterDevices, same⟩ := number_append_inj rfl rfl (List.append_cancel_left same)
  obtain ⟨primary, same⟩ := number_append_inj rfl rfl (List.append_cancel_left same)
  obtain ⟨total, same⟩ := number_append_inj rfl rfl same
  obtain ⟨count, same⟩ := number_append_inj rfl rfl (List.append_cancel_left same)
  exact Sheet.ext nodes devicesPerNode clusterDevices primary total count
    (blocks_inj named (String.toList_inj.mp same))

end Sheet

/-! ## What a report says -/

namespace Sheet

structure Block.Shows (plan : Plan) (pool : Pool) (block : Block) : Prop where
  name : block.name = pool.name
  provisioning : block.provisioning = pool.provisioning
  rows : block.rows = pool.rows.toList.map UInt32.toNat
  devices : block.devices = block.rows.sum
  roles : ∀ role, role ∈ block.roles ↔ plan.resolve role = .ok pool
  noRoles : Plan.describeRoles block.roles = "(none)" ↔ ∀ role, plan.resolve role ≠ .ok pool

structure Agrees (sheet : Sheet) (plan : Plan) : Prop where
  nodes : sheet.nodes = plan.cluster.nodes.toNat
  devicesPerNode : sheet.devicesPerNode = plan.cluster.devicesPerNode.toNat
  cluster : sheet.clusterDevices = sheet.nodes * sheet.devicesPerNode
  blocks : List.Forall₂ (Block.Shows plan) plan.pools sheet.blocks
  count : sheet.count = sheet.blocks.length
  total : (sheet.blocks.map Block.devices).sum = sheet.total
  primary : ((sheet.blocks.filter fun block => block.provisioning = .primary).map
    Block.devices).sum = sheet.primary
  primary_le : sheet.primary ≤ sheet.clusterDevices
  once : ∀ role, (sheet.blocks.flatMap Block.roles).count role =
    if plan.bindings.isBound role then 1 else 0

end Sheet

namespace Plan

section Agreement

variable {plan : Plan}

theorem devices_block {pool : Pool} (bound : pool.devices < 2 ^ 64) :
    (plan.block pool).devices = pool.devices :=
  Pool.toNat_totalDevices bound

theorem shows_block (consistent : plan.Consistent) {pool : Pool} (member : pool ∈ plan.pools)
    (bound : pool.devices < 2 ^ 64) : (plan.block pool).Shows plan pool := by
  have roles : ∀ role, role ∈ (plan.block pool).roles ↔ plan.resolve role = .ok pool := by
    intro role
    rw [block, Bindings.mem_rolesOf, consistent.resolve_eq_ok_iff]
    exact ⟨fun hosted => ⟨member, hosted⟩, And.right⟩
  refine ⟨rfl, rfl, rfl, devices_block bound, roles, ?_⟩
  rw [describeRoles_eq_none_iff, List.eq_nil_iff_forall_not_mem]
  exact forall_congr' fun role => not_congr (roles role)

theorem agrees_sheet (consistent : plan.Consistent) (shares : plan.SharesNothing)
    (bound : (plan.pools.map Pool.devices).sum < 2 ^ 64) : plan.sheet.Agrees plan := by
  have narrow : ∀ pool ∈ plan.pools, pool.devices < 2 ^ 64 := by
    intro pool member
    exact (List.le_sum_of_mem (List.mem_map_of_mem member)).trans_lt bound
  have devices (pools : List Pool) (declared : ∀ pool ∈ pools, pool ∈ plan.pools) :
      (pools.map plan.block).map Sheet.Block.devices = pools.map Pool.devices := by
    rw [List.map_map]
    exact List.map_congr_left fun pool member => devices_block (narrow pool (declared pool member))
  have primary : plan.sheet.blocks.filter (fun block => block.provisioning = .primary) =
      plan.primaryPools.map plan.block := by
    rw [sheet, List.filter_map, primaryPools]
    congr 1
    apply List.filter_congr
    intro pool _
    cases kind : pool.provisioning <;> simp [block, Pool.isAuxiliary, kind]
  refine ⟨rfl, rfl, Cluster.toNat_totalDevices plan.cluster, ?_, ?_, ?_, ?_, ?_, ?_⟩
  · rw [sheet, List.forall₂_map_right_iff, List.forall₂_same]
    exact fun pool member => shows_block consistent member (narrow pool member)
  · exact (List.length_map plan.block).symm
  · rw [sheet, devices plan.pools fun _ => id]
    exact (toNat_deviceSum_pools bound).symm
  · rw [primary, devices plan.primaryPools fun _ => List.mem_of_mem_filter]
    have parts := sum_devices_filter plan.pools
    exact (toNat_primaryDevices (by rw [primaryPools]; omega)).symm
  · exact UInt64.le_iff_toNat_le.mp shares.primary_le
  · intro role
    rw [← consistent.count_rolesByPool, sheet, rolesByPool, List.flatMap_map, List.flatMap_map]
    rfl

end Agreement

/-! ## The statement -/

theorem report_agrees {layout : Layout} {bindings : Bindings} {plan : Plan}
    (few : layout.pools.length ≤ 2 ^ 32) (frozen : freeze layout bindings = .ok plan)
    (bound : (plan.pools.map Pool.devices).sum < 2 ^ 64) :
    ∃ sheet : Sheet, plan.report = sheet.text ∧ sheet.Agrees plan ∧
      ∀ other : Sheet,
        other.blocks.map Sheet.Block.name = plan.pools.map Pool.name →
        plan.report = other.text → other = sheet := by
  have shares := sharesNothing_of_freeze few frozen bound
  refine ⟨plan.sheet, plan.report_eq, agrees_sheet (consistent_of_freeze frozen) shares bound, ?_⟩
  intro other named printed
  apply Sheet.text_inj
  · rw [named, sheet, List.map_map]
    rfl
  · rw [← printed, report_eq]

theorem report_agrees_fullNodes : ∃ plan, freeze fullNodes (.split "first" "second") = .ok plan ∧
    ∃ sheet : Sheet, plan.report = sheet.text ∧ sheet.Agrees plan ∧
      sheet.count = 3 ∧ sheet.clusterDevices = 8 := by
  obtain ⟨sheet, printed, agrees, -⟩ :=
    report_agrees (by decide) freeze_fullNodes (by decide)
  refine ⟨_, freeze_fullNodes, sheet, printed, agrees, ?_, ?_⟩
  · rw [agrees.count, ← agrees.blocks.length_eq]
    rfl
  · rw [agrees.cluster, agrees.nodes, agrees.devicesPerNode]
    rfl

example : (Plan.mk fullNodes.cluster fullNodes.pools (.split "first" "second")).report =
    "Cluster: 2 node(s) x 4 device(s) = 8 devices\n" ++
    "Allocated: 8 primary, 16 total\n\n" ++
    "Pools (3):\n" ++
    "  • first [primary] [1, 3] (4 devices)\n" ++
    "      roles: actor_rollout, reference\n" ++
    "  • own [auxiliary] [8] (8 devices)\n" ++
    "      roles: (none)\n" ++
    "  • second [primary] [3, 1] (4 devices)\n" ++
    "      roles: critic\n" := by
  decide +kernel

end Plan

end DevicePlan
