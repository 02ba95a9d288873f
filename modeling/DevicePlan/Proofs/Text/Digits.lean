import Mathlib.Data.List.Basic

namespace DevicePlan

theorem ne_of_passes {test : Char → Bool} {c other : Char} (passes : test c = true)
    (fails : test other = false) : c ≠ other := by
  rintro rfl
  rw [fails] at passes
  cases passes

section Runs

variable {test : Char → Bool} {run rest : List Char} (passes : ∀ c ∈ run, test c = true)
  (ends : ∀ c ∈ rest.head?, test c = false)

include passes ends

theorem takeWhile_run : (run ++ rest).takeWhile test = run := by
  rw [List.takeWhile_append_of_pos passes]
  cases rest with
  | nil => exact List.append_nil run
  | cons c rest => simp [ends c rfl]

theorem dropWhile_run : (run ++ rest).dropWhile test = rest := by
  rw [List.dropWhile_append_of_pos passes]
  cases rest with
  | nil => rfl
  | cons c rest => simp [ends c rfl]

end Runs

theorem isDigit_toDigits (n : Nat) : ∀ c ∈ Nat.toDigits 10 n, c.isDigit = true := by
  intro c member
  exact Nat.isDigit_of_mem_toDigits (by omega) (by omega) member

theorem head?_toDigits {n : Nat} (positive : 0 < n) : (Nat.toDigits 10 n).head? ≠ some '0' := by
  induction n using Nat.strongRecOn with
  | ind n ih =>
    rw [Nat.toDigits_eq_if (by omega)]
    split
    · simp only [List.head?_cons, ne_eq, Option.some.injEq, Nat.digitChar_eq_zero]
      omega
    · have earlier := ih (n / 10) (by omega) (by omega)
      rw [List.head?_append_of_ne_nil _ Nat.toDigits_ne_nil]
      exact earlier

theorem toList_toString (n : Int) : (toString n).toList =
    if 0 ≤ n then Nat.toDigits 10 n.toNat else '-' :: Nat.toDigits 10 (-n).toNat := by
  have printed : toString n = if 0 ≤ n then n.toNat.repr else "-" ++ (-n).toNat.repr :=
    Int.repr_eq_if
  rw [printed]
  split
  · exact Nat.toList_repr
  · rw [String.toList_append, Nat.toList_repr]
    rfl

def isIntegerStart (c : Char) : Bool := c = '-' || c.isDigit

theorem toString_eq_cons (n : Int) : ∃ first digits, (toString n).toList = first :: digits ∧
    isIntegerStart first = true ∧ ∀ c ∈ digits, c.isDigit = true := by
  rw [toList_toString]
  split
  · have all := isDigit_toDigits n.toNat
    cases written : Nat.toDigits 10 n.toNat with
    | nil => exact absurd written Nat.toDigits_ne_nil
    | cons first digits =>
      rw [written] at all
      have start := all first List.mem_cons_self
      exact ⟨first, digits, rfl, by simp [isIntegerStart, start],
        fun c member => all c (List.mem_cons_of_mem first member)⟩
  · exact ⟨'-', _, rfl, rfl, isDigit_toDigits _⟩

end DevicePlan
