import DevicePlan.Proofs.Text.Digits

namespace DevicePlan

theorem run_append_inj {test : Char → Bool} {run other rest otherRest : List Char}
    (passes : ∀ c ∈ run, test c = true) (otherPasses : ∀ c ∈ other, test c = true)
    (ends : ∀ c ∈ rest.head?, test c = false) (otherEnds : ∀ c ∈ otherRest.head?, test c = false)
    (same : run ++ rest = other ++ otherRest) : run = other ∧ rest = otherRest := by
  constructor
  · rw [← takeWhile_run passes ends, same, takeWhile_run otherPasses otherEnds]
  · rw [← dropWhile_run passes ends, same, dropWhile_run otherPasses otherEnds]

theorem word_append_inj {test : Char → Bool} {mark : String} {first : Char}
    (begins : mark.toList.head? = some first) (fails : test first = false) {word other : String}
    (passes : ∀ c ∈ word.toList, test c = true) (otherPasses : ∀ c ∈ other.toList, test c = true)
    {rest otherRest : List Char}
    (same : word.toList ++ (mark.toList ++ rest) = other.toList ++ (mark.toList ++ otherRest)) :
    word = other ∧ rest = otherRest := by
  have ends (rest : List Char) : ∀ c ∈ (mark.toList ++ rest).head?, test c = false := by
    intro c here
    rw [List.head?_append, begins] at here
    cases here
    exact fails
  obtain ⟨words, rests⟩ := run_append_inj passes otherPasses (ends rest) (ends otherRest) same
  exact ⟨String.toList_inj.mp words, List.append_cancel_left rests⟩

theorem isDigit_toString (n : Nat) : ∀ c ∈ (toString n).toList, c.isDigit = true := by
  have digits : (toString n).toList = Nat.toDigits 10 n := Nat.toList_repr
  rw [digits]
  exact isDigit_toDigits n

theorem toString_ne_empty (n : Nat) : toString n ≠ "" := by
  intro empty
  have digits : Nat.toDigits 10 n = [] := by
    rw [← Nat.toList_repr]
    exact String.toList_eq_nil_iff.mpr empty
  exact Nat.toDigits_ne_nil digits

theorem toString_inj {n m : Nat} : toString n = toString m ↔ n = m := by
  constructor
  · intro same
    have digits : Nat.toDigits 10 n = Nat.toDigits 10 m := by
      simpa only [Nat.toString_eq_repr, Nat.toList_repr] using congrArg String.toList same
    simpa using congrArg (fun digits => Nat.ofDigitChars 10 digits 0) digits
  · rintro rfl
    rfl

theorem number_append_inj {mark : String} {first : Char} (begins : mark.toList.head? = some first)
    (fails : first.isDigit = false) {n m : Nat} {rest otherRest : List Char}
    (same : (toString n).toList ++ (mark.toList ++ rest) =
      (toString m).toList ++ (mark.toList ++ otherRest)) : n = m ∧ rest = otherRest := by
  obtain ⟨numbers, rests⟩ :=
    word_append_inj begins fails (isDigit_toString n) (isDigit_toString m) same
  exact ⟨toString_inj.mp numbers, rests⟩

def followers (words : List String) : List Char :=
  words.flatMap fun word => ", ".toList ++ word.toList

theorem toList_commas_cons (word : String) (words : List String) :
    (", ".intercalate (word :: words)).toList = word.toList ++ followers words := by
  induction words generalizing word with
  | nil => simp [followers]
  | cons next words ih =>
    rw [String.intercalate_cons_cons, String.toList_append, String.toList_append, ih]
    simp [followers]

theorem followers_cons (word : String) (words : List String) :
    followers (word :: words) = ',' :: ' ' :: (word.toList ++ followers words) := rfl

section Lists

variable {test : Char → Bool} {first : Char} (fails : test first = false)
  (noComma : test ',' = false) (apart : first ≠ ',')

include fails noComma in
theorem ends_followers (words : List String) (rest : List Char) :
    ∀ c ∈ (followers words ++ first :: rest).head?, test c = false := by
  intro c here
  cases words with
  | nil =>
    cases here
    exact fails
  | cons word words =>
    cases here
    exact noComma

include fails in
theorem append_ne_cons {word : String} (passes : ∀ c ∈ word.toList, test c = true)
    (nonempty : word ≠ "") (tail rest : List Char) : word.toList ++ tail ≠ first :: rest := by
  intro same
  cases spelled : word.toList with
  | nil => exact nonempty (String.toList_eq_nil_iff.mp spelled)
  | cons c cs =>
    rw [spelled] at passes same
    have passesFirst := passes c List.mem_cons_self
    rw [(List.cons.inj same).1, fails] at passesFirst
    cases passesFirst

include fails noComma apart

theorem followers_append_inj {words others : List String}
    (passes : ∀ word ∈ words, ∀ c ∈ word.toList, test c = true)
    (otherPasses : ∀ word ∈ others, ∀ c ∈ word.toList, test c = true) {rest otherRest : List Char}
    (same : followers words ++ first :: rest = followers others ++ first :: otherRest) :
    words = others ∧ rest = otherRest := by
  induction words generalizing others with
  | nil =>
    cases others with
    | nil => exact ⟨rfl, (List.cons.inj same).2⟩
    | cons other others => exact absurd (List.cons.inj same).1 apart
  | cons word words ih =>
    cases others with
    | nil => exact absurd (List.cons.inj same).1.symm apart
    | cons other others =>
      rw [List.forall_mem_cons] at passes otherPasses
      rw [followers_cons, followers_cons] at same
      simp only [List.cons_append, List.append_assoc, List.cons.injEq, true_and] at same
      obtain ⟨spelled, later⟩ := run_append_inj passes.1 otherPasses.1
        (ends_followers fails noComma words rest)
        (ends_followers fails noComma others otherRest) same
      obtain ⟨rfl, rests⟩ := ih passes.2 otherPasses.2 later
      rw [String.toList_inj.mp spelled]
      exact ⟨rfl, rests⟩

theorem commas_append_inj {mark : String} (begins : mark.toList.head? = some first)
    {words others : List String} (passes : ∀ word ∈ words, ∀ c ∈ word.toList, test c = true)
    (otherPasses : ∀ word ∈ others, ∀ c ∈ word.toList, test c = true)
    (nonempty : ∀ word ∈ words, word ≠ "") (otherNonempty : ∀ word ∈ others, word ≠ "")
    {rest otherRest : List Char}
    (same : (", ".intercalate words).toList ++ (mark.toList ++ rest) =
      (", ".intercalate others).toList ++ (mark.toList ++ otherRest)) :
    words = others ∧ rest = otherRest := by
  obtain ⟨more, spelled⟩ := List.head?_eq_some_iff.mp begins
  rw [spelled] at same
  cases words with
  | nil =>
    cases others with
    | nil => exact ⟨rfl, List.append_cancel_left (List.append_cancel_left same)⟩
    | cons other others =>
      rw [toList_commas_cons, List.append_assoc] at same
      rw [List.forall_mem_cons] at otherPasses otherNonempty
      exact absurd same.symm (append_ne_cons fails otherPasses.1 otherNonempty.1 _ _)
  | cons word words =>
    rw [toList_commas_cons, List.append_assoc] at same
    rw [List.forall_mem_cons] at passes nonempty
    cases others with
    | nil => exact absurd same (append_ne_cons fails passes.1 nonempty.1 _ _)
    | cons other others =>
      rw [toList_commas_cons, List.append_assoc] at same
      rw [List.forall_mem_cons] at otherPasses
      obtain ⟨firsts, later⟩ := run_append_inj passes.1 otherPasses.1
        (ends_followers fails noComma words (more ++ rest))
        (ends_followers fails noComma others (more ++ otherRest)) same
      obtain ⟨rfl, rests⟩ :=
        followers_append_inj fails noComma apart passes.2 otherPasses.2 later
      rw [String.toList_inj.mp firsts]
      exact ⟨rfl, List.append_cancel_left rests⟩

theorem listed_append_inj {α : Type} {name : α → String} {mark : String}
    (begins : mark.toList.head? = some first) (apartNames : Function.Injective name)
    (passes : ∀ item, ∀ c ∈ (name item).toList, test c = true) (nonempty : ∀ item, name item ≠ "")
    {items others : List α} {rest otherRest : List Char}
    (same : (", ".intercalate (items.map name)).toList ++ (mark.toList ++ rest) =
      (", ".intercalate (others.map name)).toList ++ (mark.toList ++ otherRest)) :
    items = others ∧ rest = otherRest := by
  obtain ⟨names, rests⟩ := commas_append_inj fails noComma apart begins
    (List.forall_mem_map.mpr fun item _ => passes item)
    (List.forall_mem_map.mpr fun item _ => passes item)
    (List.forall_mem_map.mpr fun item _ => nonempty item)
    (List.forall_mem_map.mpr fun item _ => nonempty item) same
  exact ⟨List.map_injective_iff.mpr apartNames names, rests⟩

end Lists

theorem numbers_append_inj {mark : String} {first : Char} (begins : mark.toList.head? = some first)
    (fails : first.isDigit = false) (apart : first ≠ ',') {numbers others : List Nat}
    {rest otherRest : List Char}
    (same : (", ".intercalate (numbers.map toString)).toList ++ (mark.toList ++ rest) =
      (", ".intercalate (others.map toString)).toList ++ (mark.toList ++ otherRest)) :
    numbers = others ∧ rest = otherRest :=
  listed_append_inj fails rfl apart begins (fun _ _ => toString_inj.mp) isDigit_toString
    toString_ne_empty same

end DevicePlan
