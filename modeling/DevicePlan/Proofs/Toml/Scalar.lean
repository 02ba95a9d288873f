import DevicePlan.Proofs.Text.Digits
import DevicePlan.Proofs.Toml.Quoted

namespace DevicePlan.Toml

theorem digitGroups?_digits {digits : List Char} (nonempty : digits ≠ [])
    (all : ∀ c ∈ digits, c.isDigit = true) : digitGroups? Char.isDigit digits = some digits := by
  induction digits with
  | nil => exact absurd rfl nonempty
  | cons c digits ih =>
    have here := all c List.mem_cons_self
    cases digits with
    | nil => simp [digitGroups?, here]
    | cons next digits =>
      have later := ih (by simp) fun other member => all other (List.mem_cons_of_mem c member)
      have noGap : next ≠ '_' := ne_of_passes (all next (by simp)) rfl
      rw [digitGroups?, later] <;> simp_all

theorem ofDigits_toDigits (n : Nat) : ofDigits 10 (Nat.toDigits 10 n) = n := by
  have value : ofDigits 10 (Nat.toDigits 10 n) = Nat.ofDigitChars 10 (Nat.toDigits 10 n) 0 := by
    rw [ofDigits, Nat.ofDigitChars_eq_foldl]
    apply List.foldl_ext
    intro sum c member
    rw [digitValue, if_pos (isDigit_toDigits n c member)]
  rw [value, Nat.ofDigitChars_toDigits (by omega) (by omega)]

theorem isPlain_toDigits (n : Nat) : isPlain (Nat.toDigits 10 n) = true := by
  by_cases zero : n = 0
  · subst zero
    rfl
  · have start := head?_toDigits (Nat.pos_of_ne_zero zero)
    unfold isPlain
    split
    · simp_all
    · rfl

theorem decimalDigits?_toDigits (n : Nat) :
    decimalDigits? (Nat.toDigits 10 n) = some (Nat.toDigits 10 n) := by
  rw [decimalDigits?, digitGroups?_digits Nat.toDigits_ne_nil (isDigit_toDigits n), Option.filter,
    isPlain_toDigits]
  rfl

theorem integer?_toDigits {n : Nat} (bound : n < 0x8000000000000000) :
    integer? (Nat.toDigits 10 n) = some (n : Int) := by
  have digits := isDigit_toDigits n
  have base : ∀ letter : Char, letter.isDigit = false →
      ∀ rest, Nat.toDigits 10 n ≠ '0' :: letter :: rest := by
    intro letter noDigit rest same
    rw [same] at digits
    exact ne_of_passes (digits letter (by simp)) noDigit rfl
  have unsigned : signed (Nat.toDigits 10 n) = (false, Nat.toDigits 10 n) := by
    rw [signed]
    · intro rest same
      rw [same] at digits
      exact ne_of_passes (digits '-' (by simp)) rfl rfl
    · intro rest same
      rw [same] at digits
      exact ne_of_passes (digits '+' (by simp)) rfl rfl
  rw [integer?]
  · simp [unsigned, decimalDigits?_toDigits, ofDigits_toDigits, inRange?, bound]
  · exact base 'x' rfl
  · exact base 'o' rfl
  · exact base 'b' rfl

theorem integer?_neg_toDigits {n : Nat} (bound : n ≤ 0x8000000000000000) :
    integer? ('-' :: Nat.toDigits 10 n) = some (-(n : Int)) := by
  rw [integer?] <;>
    simp [signed, decimalDigits?_toDigits, ofDigits_toDigits, inRange?, bound]

theorem integer?_toString (n : Int64) : integer? (toString n.toInt).toList = some n.toInt := by
  have low := n.le_toInt
  have high := n.toInt_lt
  rw [toList_toString]
  split
  · rename_i positive
    rw [integer?_toDigits (by omega), Int.toNat_of_nonneg positive]
  · rename_i negative
    rw [integer?_neg_toDigits (by omega), Int.toNat_of_nonneg (by omega), Int.neg_neg]

theorem date?_eq_none {cs : List Char} (noDash : '-' ∉ cs.tail) : date? cs = none := by
  unfold date?
  split
  · simp at noDash
  · rfl

theorem scalar_append {cs : List Char} {value : Value} (all : ∀ c ∈ cs, isTokenChar c = true)
    (noDash : '-' ∉ cs.tail) (reads : scalar? cs = some value) (rest : List Char) :
    scalar (cs ++ '\n' :: rest) = some (value, '\n' :: rest) := by
  have ends : ∀ c ∈ ('\n' :: rest).head?, isTokenChar c = false := by
    rintro c ⟨⟩
    rfl
  have whole : token (cs ++ '\n' :: rest) = (cs, '\n' :: rest) := by
    rw [token, takeWhile_run all ends, dropWhile_run all ends]
  simp [scalar, whole, date?_eq_none noDash, reads]

theorem scalar_boolean (value : Bool) (rest : List Char) :
    scalar ((toString value).toList ++ '\n' :: rest) = some (.boolean value, '\n' :: rest) := by
  cases value with
  | false =>
    have spelled : (toString false).toList = ['f', 'a', 'l', 's', 'e'] := rfl
    rw [spelled]
    apply scalar_append (List.all_eq_true.mp rfl)
    · simp
    · rfl
  | true =>
    have spelled : (toString true).toList = ['t', 'r', 'u', 'e'] := rfl
    rw [spelled]
    apply scalar_append (List.all_eq_true.mp rfl)
    · simp
    · rfl

theorem scalar_integer (n : Int64) (rest : List Char) :
    scalar ((toString n.toInt).toList ++ '\n' :: rest) =
      some (.integer n.toInt, '\n' :: rest) := by
  obtain ⟨first, digits, written, start, all⟩ := toString_eq_cons n.toInt
  have reads := integer?_toString n
  rw [written] at reads ⊢
  have tokenChars : ∀ c ∈ first :: digits, isTokenChar c = true := by
    intro c member
    have digitOrDash : isIntegerStart c = true := by
      rcases List.mem_cons.mp member with rfl | later
      · exact start
      · simp [isIntegerStart, all c later]
    rw [isIntegerStart, Bool.or_eq_true, decide_eq_true_eq] at digitOrDash
    rcases digitOrDash with rfl | digit
    · rfl
    · simp [isTokenChar, Char.isAlphanum, digit]
  apply scalar_append tokenChars
  · intro dash
    exact ne_of_passes (all '-' dash) rfl rfl
  · rw [scalar?, reads]
    · rfl
    · intro same
      exact ne_of_passes start rfl (List.cons.inj same).1
    · intro same
      exact ne_of_passes start rfl (List.cons.inj same).1

end DevicePlan.Toml
