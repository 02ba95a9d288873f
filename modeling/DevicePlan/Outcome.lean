namespace DevicePlan

variable {ε α β : Type}

theorem pure_eq_ok {value result : α} :
    (pure value : Except ε α) = .ok result ↔ value = result := by
  simp [pure, Except.pure]

theorem exists_error_iff {outcome : Except ε α} :
    (∃ error, outcome = .error error) ↔ ∀ result, outcome ≠ .ok result := by
  cases outcome <;> simp

theorem bind_eq_ok {outcome : Except ε α} {next : α → Except ε β} {result : β} :
    outcome >>= next = .ok result ↔ ∃ value, outcome = .ok value ∧ next value = .ok result := by
  cases outcome <;> simp [bind, Except.bind]

theorem bind_eq_error {outcome : Except ε α} {next : α → Except ε β} {error : ε} :
    outcome >>= next = .error error ↔ outcome = .error error ∨
      ∃ value, outcome = .ok value ∧ next value = .error error := by
  cases outcome <;> simp [bind, Except.bind]

theorem mapError_eq_ok {ε' : Type} {outcome : Except ε α} {change : ε → ε'} {value : α} :
    outcome.mapError change = .ok value ↔ outcome = .ok value := by
  cases outcome with
  | error error => exact ⟨nofun, nofun⟩
  | ok value => constructor <;> intro same <;> cases same <;> rfl

theorem exists_of_mapM_eq_error {entries : List α} {f : α → Except ε β} {error : ε}
    (failed : entries.mapM f = .error error) : ∃ entry ∈ entries, f entry = .error error := by
  induction entries with
  | nil => cases failed
  | cons entry rest ih =>
    rw [List.mapM_cons] at failed
    rcases bind_eq_error.mp failed with here | ⟨value, -, failed⟩
    · exact ⟨entry, List.mem_cons_self, here⟩
    · rcases bind_eq_error.mp failed with later | ⟨values, -, impossible⟩
      · obtain ⟨other, member, wrong⟩ := ih later
        exact ⟨other, List.mem_cons_of_mem entry member, wrong⟩
      · cases impossible

end DevicePlan
