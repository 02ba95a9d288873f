import DevicePlan.Pool
import Mathlib.Algebra.Order.BigOperators.Group.List
import Mathlib.Algebra.Order.Ring.Nat

namespace DevicePlan

theorem toNat_foldl_add (start : UInt64) (counts : List UInt64) :
    (counts.foldl (· + ·) start).toNat =
      (start.toNat + (counts.map UInt64.toNat).sum) % 2 ^ 64 := by
  induction counts generalizing start with
  | nil => simp
  | cons count rest ih =>
    rw [List.foldl_cons, ih, UInt64.toNat_add, Nat.mod_add_mod, List.map_cons, List.sum_cons,
      Nat.add_assoc]

theorem toNat_deviceSum (counts : List UInt64) :
    (deviceSum counts).toNat = (counts.map UInt64.toNat).sum % 2 ^ 64 := by
  rw [deviceSum, toNat_foldl_add]
  simp

theorem sum_toNat_le (rows : List UInt32) :
    (rows.map UInt32.toNat).sum ≤ rows.length * (2 ^ 32 - 1) := by
  have bounded : ∀ count ∈ rows.map UInt32.toNat, count ≤ 2 ^ 32 - 1 := by
    intro count member
    obtain ⟨row, -, rfl⟩ := List.mem_map.mp member
    exact Nat.le_pred_of_lt row.toNat_lt
  simpa using List.sum_le_card_nsmul _ _ bounded

theorem toNat_deviceSum_rows (rows : List UInt32) (few : rows.length ≤ 2 ^ 32) :
    (deviceSum (rows.map UInt32.toUInt64)).toNat = (rows.map UInt32.toNat).sum := by
  have exactCounts : (rows.map UInt32.toUInt64).map UInt64.toNat = rows.map UInt32.toNat := by
    simp [Function.comp_def]
  have bound := (sum_toNat_le rows).trans (Nat.mul_le_mul_right (2 ^ 32 - 1) few)
  rw [toNat_deviceSum, exactCounts, Nat.mod_eq_of_lt]
  omega

end DevicePlan
