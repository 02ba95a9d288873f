import DevicePlan.Layout

namespace DevicePlan

namespace Cluster

theorem nodes_bounds (cluster : Cluster) :
    0 < cluster.nodes.toNat ∧ cluster.nodes.toNat ≤ 65536 :=
  ⟨UInt32.lt_iff_toNat_lt.mp cluster.nodes_pos, UInt32.le_iff_toNat_le.mp cluster.nodes_le⟩

theorem ofCounts_eq_ok_iff {nodes devicesPerNode : UInt32} {cluster : Cluster} :
    ofCounts nodes devicesPerNode = .ok cluster ↔
      cluster.nodes = nodes ∧ cluster.devicesPerNode = devicesPerNode := by
  constructor
  · intro accepted
    unfold ofCounts at accepted
    split at accepted
    · cases accepted
    · split at accepted
      · split at accepted
        · cases accepted
        · cases accepted
          exact ⟨rfl, rfl⟩
      · cases accepted
  · rintro ⟨rfl, rfl⟩
    have noNodes : cluster.nodes ≠ 0 := UInt32.pos_iff_ne_zero.mp cluster.nodes_pos
    have noDevices : cluster.devicesPerNode ≠ 0 :=
      UInt32.pos_iff_ne_zero.mp cluster.devicesPerNode_pos
    simp only [ofCounts, dif_neg noNodes, dif_pos cluster.nodes_le, dif_neg noDevices]

end Cluster

namespace Pool

def figures (pool : Pool) : String × List Nat × Provisioning :=
  (pool.name, pool.rows.toList.map UInt32.toNat, pool.provisioning)

theorem figures_uniform (name : String) (count nodes : UInt32) (provisioning : Provisioning) :
    (uniform name count nodes provisioning).figures =
      (name, List.replicate nodes.toNat count.toNat, provisioning) := by
  simp [figures, uniform]

end Pool

namespace Layout

def names (layout : Layout) : List String := layout.pools.map Pool.name

theorem declares_iff {layout : Layout} {name : String} :
    layout.declares name = true ↔ name ∈ layout.names := by
  simp [declares, find?, names]

@[simp]
theorem names_push (layout : Layout) (pool : Pool) :
    (layout.push pool).names = layout.names ++ [pool.name] := by
  simp [names, push]

theorem toNat_firstShare (devices : UInt32) :
    (firstShare devices).toNat = (devices.toNat + 1) / 2 := by
  have bound := devices.toNat_lt
  simp only [firstShare, UInt32.toNat_add, UInt32.toNat_div, UInt32.toNat_mod,
    UInt32.reduceToNat]
  omega

theorem toNat_secondShare (devices : UInt32) :
    (secondShare devices).toNat = devices.toNat / 2 := by
  simp [secondShare]

theorem split_eq_ok_iff {cluster : Cluster} {first second : String} {layout : Layout} :
    split cluster first second = .ok layout ↔ 2 ≤ cluster.devicesPerNode.toNat ∧
      layout = ⟨cluster,
        [.uniform first (firstShare cluster.devicesPerNode) cluster.nodes .primary,
          .uniform second (secondShare cluster.devicesPerNode) cluster.nodes .primary]⟩ := by
  unfold split
  split
  · rename_i narrow
    have few : cluster.devicesPerNode.toNat < 2 := UInt32.lt_iff_toNat_lt.mp narrow
    simp [Nat.not_le.mpr few]
  · rename_i wide
    have enough : 2 ≤ cluster.devicesPerNode.toNat :=
      Nat.le_of_not_lt fun few => wide (UInt32.lt_iff_toNat_lt.mpr few)
    simp [enough, empty, push, eq_comm]

theorem addAuxiliary_eq_ok_iff {layout result : Layout} {name : String}
    {devicesPerNode nodes : UInt32} :
    layout.addAuxiliary name devicesPerNode nodes = .ok result ↔
      0 < devicesPerNode.toNat ∧ 0 < nodes.toNat ∧ nodes.toNat ≤ 65536 ∧
        result = layout.push (.uniform name devicesPerNode nodes .auxiliary) := by
  have zero (count : UInt32) : count = 0 ↔ count.toNat = 0 := by
    rw [← UInt32.toNat_inj]
    rfl
  have most : maxNodes < nodes ↔ 65536 < nodes.toNat := UInt32.lt_iff_toNat_lt
  unfold addAuxiliary
  simp only [zero, most]
  split
  · rename_i noDevices
    simp [noDevices]
  · split
    · rename_i noNodes
      simp [noNodes]
    · split
      · rename_i many
        simp [Nat.not_le.mpr many]
      · constructor
        · intro declared
          cases declared
          exact ⟨by omega, by omega, by omega, rfl⟩
        · rintro ⟨-, -, -, rfl⟩
          rfl

end Layout

end DevicePlan
