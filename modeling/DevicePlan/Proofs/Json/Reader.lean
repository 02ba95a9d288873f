import DevicePlan.Json.Reader
import DevicePlan.Json.Text
import DevicePlan.Proofs.Text.Digits
import Mathlib.Data.List.DropRight
import Mathlib.Data.List.TakeWhile

namespace DevicePlan.Json

theorem hexNumber?_control : ∀ n < 0x20,
    hexNumber? ['0', '0', hexDigit (n / 16), hexDigit (n % 16)] = some n := by
  decide

theorem stringBody_plain {c : Char} (noQuote : c ≠ '"') (noBackslash : c ≠ '\\')
    (noControl : ¬c.toNat < 0x20) (tail : List Char) :
    stringBody none (c :: tail) = push c (stringBody none tail) := by
  rw [stringBody]
  · simp [noQuote, noBackslash, noControl]
  · simp [noBackslash]
  · simp [noBackslash]

theorem stringBody_escapeChar (c : Char) (tail : List Char) :
    stringBody none (escapeChar c ++ tail) = push c (stringBody none tail) := by
  unfold escapeChar
  split
  · rfl
  · rfl
  · rfl
  · rfl
  · rfl
  · rfl
  · rfl
  · split
    · rename_i control
      have unit := hexNumber?_control c.toNat control
      simp only [List.cons_append, List.nil_append]
      rw [stringBody, unit]
      have noHigh : ¬(0xD800 ≤ c.toNat ∧ c.toNat < 0xDC00) := by omega
      have noLow : ¬(0xDC00 ≤ c.toNat ∧ c.toNat < 0xE000) := by omega
      simp [noHigh, noLow, Char.ofNat_toNat]
    · rename_i noControl
      apply stringBody_plain <;> assumption

theorem stringBody_quote (text rest : List Char) :
    stringBody none (text.flatMap escapeChar ++ '"' :: rest) = some (text, rest) := by
  induction text with
  | nil => rw [List.flatMap_nil, List.nil_append, stringBody] <;> simp
  | cons c text ih =>
    rw [List.flatMap_cons, List.append_assoc, stringBody_escapeChar, ih]
    rfl

theorem le_ofDigitChars (digits : List Char) (n : Nat) : n ≤ Nat.ofDigitChars 10 digits n := by
  induction digits generalizing n with
  | nil => exact Nat.le_refl n
  | cons digit digits ih =>
    rw [Nat.ofDigitChars_cons]
    have more := ih (10 * n + (digit.toNat - '0'.toNat))
    omega

theorem takeDigits_eq {digits : List Char} {n : Nat}
    (fits : Nat.ofDigitChars 10 digits n ≤ maxWord) :
    takeDigits n digits = (Nat.ofDigitChars 10 digits n, digits.length) := by
  induction digits generalizing n with
  | nil => rfl
  | cons digit digits ih =>
    rw [Nat.ofDigitChars_cons] at fits ⊢
    have here := Nat.le_trans (le_ofDigitChars digits _) fits
    rw [takeDigits, if_pos here, ih fits]
    rfl

theorem takeWhile_toDigits (n : Nat) :
    (Nat.toDigits 10 n).takeWhile Char.isDigit = Nat.toDigits 10 n := by
  rw [List.takeWhile_eq_self_iff]
  exact isDigit_toDigits n

theorem dropWhile_toDigits (n : Nat) : (Nat.toDigits 10 n).dropWhile Char.isDigit = [] := by
  rw [List.dropWhile_eq_nil_iff]
  exact isDigit_toDigits n

theorem guard_toDigits (n : Nat) : (!(Nat.toDigits 10 n).isEmpty &&
    ((Nat.toDigits 10 n).head? != some '0' || (Nat.toDigits 10 n).length == 1)) = true := by
  by_cases zero : n = 0
  · subst zero
    rfl
  · have start := head?_toDigits (Nat.pos_of_ne_zero zero)
    simp [start, Nat.toDigits_ne_nil]

theorem takeDigits_toDigits {n : Nat} (fits : n ≤ maxWord) :
    takeDigits 0 (Nat.toDigits 10 n) = (n, (Nat.toDigits 10 n).length) := by
  have value : Nat.ofDigitChars 10 (Nat.toDigits 10 n) 0 = n :=
    Nat.ofDigitChars_toDigits (by omega) (by omega)
  rw [takeDigits_eq (by rw [value]; exact fits), value]

theorem number?_toDigits {n : Nat} (fits : n ≤ maxWord) :
    number? (Nat.toDigits 10 n) = some (.integer n) := by
  have all := isDigit_toDigits n
  have unsigned : ((Nat.toDigits 10 n).head? == some '-') = false := by
    cases written : Nat.toDigits 10 n with
    | nil => rfl
    | cons first digits =>
      rw [written] at all
      have noDash : first ≠ '-' := ne_of_passes (all first List.mem_cons_self) rfl
      simp [noDash]
  unfold number?
  rw [unsigned]
  dsimp only
  rw [if_neg Bool.false_ne_true, takeWhile_toDigits, dropWhile_toDigits, guard_toDigits,
    takeDigits_toDigits fits]
  exact if_pos ⟨rfl, rfl⟩

theorem number?_neg_toDigits {n : Nat} (positive : 0 < n) (fits : n ≤ 0x8000000000000000) :
    number? ('-' :: Nat.toDigits 10 n) = some (.integer (-n)) := by
  have small : n ≤ maxWord := by
    rw [maxWord]
    omega
  have whole : ([] : List Char).isEmpty = true ∧
      (n, (Nat.toDigits 10 n).length).2 = (Nat.toDigits 10 n).length := ⟨rfl, rfl⟩
  unfold number?
  dsimp only [List.head?_cons, List.tail_cons]
  rw [if_pos (by rfl), takeWhile_toDigits, dropWhile_toDigits, guard_toDigits,
    takeDigits_toDigits small]
  rw [if_pos whole, if_neg (not_not.mpr (by rfl)), if_pos ⟨positive, fits⟩]
  rfl

def Fits (n : Int) : Prop := -0x8000000000000000 ≤ n ∧ n ≤ maxWord

theorem number?_toString {n : Int} (fits : Fits n) :
    number? (toString n).toList = some (.integer n) := by
  obtain ⟨low, high⟩ := fits
  rw [toList_toString]
  split
  · rename_i positive
    rw [number?_toDigits (by omega), Int.toNat_of_nonneg positive]
  · rename_i negative
    rw [number?_neg_toDigits (by omega) (by omega), Int.toNat_of_nonneg (by omega), Int.neg_neg]

/-- The text is read as the value wherever it stands, as long as no number goes on behind it. -/
structure Reads (v : Value) (text : List Char) : Prop where
  start : ∃ first more, text = first :: more ∧ isBlank first = false ∧ first ≠ ']'
  value : ∀ depth, text.length ≤ depth → ∀ rest : List Char,
    (∀ c ∈ rest.head?, isNumberChar c = false) → value depth (text ++ rest) = some (v, rest)

theorem toList_quote (text : String) :
    (quote text).toList = '"' :: (text.toList.flatMap escapeChar ++ ['"']) := by
  rw [quote, String.toList_ofList]
  rfl

theorem reads_string (text : String) : Reads (.string text) (quote text).toList where
  start := ⟨'"', _, toList_quote text, rfl, by simp⟩
  value := by
    intro depth _ rest _
    rw [toList_quote, List.cons_append, List.append_assoc, List.singleton_append, value,
      stringBody_quote]
    simp

theorem isBlank_of_isIntegerStart {c : Char} (start : isIntegerStart c = true) :
    isBlank c = false := by
  have noSpace : c ≠ ' ' := ne_of_passes start rfl
  have noTab : c ≠ '\t' := ne_of_passes start rfl
  have noNewline : c ≠ '\n' := ne_of_passes start rfl
  have noReturn : c ≠ '\r' := ne_of_passes start rfl
  simp [isBlank, noSpace, noTab, noNewline, noReturn]

theorem isNumberChar_toString (n : Int) : ∀ c ∈ (toString n).toList, isNumberChar c = true := by
  obtain ⟨first, digits, written, start, all⟩ := toString_eq_cons n
  rw [isIntegerStart, Bool.or_eq_true, decide_eq_true_eq] at start
  intro c member
  rw [written] at member
  rcases List.mem_cons.mp member with rfl | member
  · rcases start with rfl | digit
    · rfl
    · simp [isNumberChar, digit]
  · simp [isNumberChar, all c member]

theorem reads_integer {n : Int} (fits : Fits n) : Reads (.integer n) (toString n).toList where
  start := by
    obtain ⟨first, digits, written, start, -⟩ := toString_eq_cons n
    exact ⟨first, digits, written, isBlank_of_isIntegerStart start, ne_of_passes start rfl⟩
  value := by
    intro depth _ rest ends
    have numeric := isNumberChar_toString n
    obtain ⟨first, digits, written, start, -⟩ := toString_eq_cons n
    have noStart {c : Char} (other : isIntegerStart c = false) :
        ∀ more, (toString n).toList ++ rest ≠ c :: more := by
      intro more same
      rw [written] at same
      exact ne_of_passes start other (List.cons.inj same).1
    rw [value, takeWhile_run numeric ends, dropWhile_run numeric ends, number?_toString fits]
    · rfl
    · intro empty
      rw [written] at empty
      cases empty
    · exact noStart rfl
    · intro more
      exact noStart rfl _
    · intro more
      exact noStart rfl _
    · intro more
      exact noStart rfl _
    · exact noStart rfl
    · exact noStart rfl

theorem isNumberChar_of_isBlank {c : Char} (blank : isBlank c = true) : isNumberChar c = false := by
  simp only [isBlank, Bool.or_eq_true, decide_eq_true_eq] at blank
  rcases blank with ((rfl | rfl) | rfl) | rfl <;> rfl

section

variable {blanks ending : List Char} (blank : ∀ c ∈ blanks, isBlank c = true)
  (blankEnd : ∀ c ∈ ending, isBlank c = true) {v : Value} {text : List Char}
  (reads : Reads v text) {depth : Nat} (deep : text.length ≤ depth)

include blank reads in
theorem skipBlanks_part (tail : List Char) :
    skipBlanks (blanks ++ (text ++ tail)) = text ++ tail := by
  obtain ⟨first, more, spelled, start, -⟩ := reads.start
  apply dropWhile_run blank
  rw [spelled]
  rintro c ⟨⟩
  exact start

include blankEnd in
theorem skipBlanks_bracket (bracket : Char) (noBlank : isBlank bracket = false)
    (rest : List Char) : skipBlanks (ending ++ bracket :: rest) = bracket :: rest := by
  apply dropWhile_run blankEnd
  rintro c ⟨⟩
  exact noBlank

include blankEnd in
theorem ends_bracket (bracket : Char) (noNumber : isNumberChar bracket = false)
    (rest : List Char) : ∀ c ∈ (ending ++ bracket :: rest).head?, isNumberChar c = false := by
  cases ending with
  | nil =>
    rintro c ⟨⟩
    exact noNumber
  | cons first ending =>
    rintro c ⟨⟩
    exact isNumberChar_of_isBlank (blankEnd first List.mem_cons_self)

include blank reads deep

include blankEnd in
theorem elements_last (fuel : Nat) (rest : List Char) :
    elements (fun cs => value depth cs) (fuel + 1)
      (blanks ++ (text ++ (ending ++ ']' :: rest))) = some ([v], rest) := by
  have read := reads.value depth deep _ (ends_bracket blankEnd ']' rfl rest)
  have closed := skipBlanks_bracket blankEnd ']' rfl rest
  rw [elements, skipBlanks_part blank reads, read]
  simp only [Option.bind_eq_bind, Option.bind_some, closed]

theorem elements_next (fuel : Nat) (rest : List Char) :
    elements (fun cs => value depth cs) (fuel + 1) (blanks ++ (text ++ ',' :: rest)) =
      (elements (fun cs => value depth cs) fuel rest).map
        fun (values, rest) => (v :: values, rest) := by
  have ends : ∀ c ∈ (',' :: rest).head?, isNumberChar c = false := by
    rintro c ⟨⟩
    rfl
  have read := reads.value depth deep _ ends
  have comma : skipBlanks (',' :: rest) = ',' :: rest := rfl
  rw [elements, skipBlanks_part blank reads, read]
  simp only [Option.bind_eq_bind, Option.bind_some, comma]
  cases elements (fun cs => value depth cs) fuel rest <;> rfl

end

def between (blanks ending : List Char) (texts : List (List Char)) : List Char :=
  blanks ++ (',' :: blanks).intercalate texts ++ ending

theorem between_cons (blanks ending first second : List Char) (texts : List (List Char)) :
    between blanks ending (first :: second :: texts) =
      blanks ++ (first ++ ',' :: between blanks ending (second :: texts)) := by
  simp [between, List.intercalate_cons_cons]

theorem elements_between {blanks ending : List Char} (blank : ∀ c ∈ blanks, isBlank c = true)
    (blankEnd : ∀ c ∈ ending, isBlank c = true) {values : List Value} {texts : List (List Char)}
    (reads : List.Forall₂ Reads values texts) (nonempty : values ≠ []) {depth fuel : Nat}
    (deep : ∀ text ∈ texts, text.length ≤ depth) (enough : texts.length ≤ fuel)
    (rest : List Char) :
    elements (fun cs => value depth cs) fuel (between blanks ending texts ++ ']' :: rest) =
      some (values, rest) := by
  induction reads generalizing fuel with
  | nil => exact absurd rfl nonempty
  | cons first others ih =>
    have here := deep _ List.mem_cons_self
    cases fuel with
    | zero => cases enough
    | succ fuel =>
      cases others with
      | nil =>
        have last := elements_last blank blankEnd first here fuel rest
        simpa [between] using last
      | cons second others =>
        have later := ih (by simp) (fun text member => deep text (List.mem_cons_of_mem _ member))
          (Nat.le_of_succ_le_succ enough)
        rw [between_cons, List.append_assoc, List.append_assoc, List.cons_append,
          elements_next blank first here, later]
        rfl

def memberText (colon : List Char) (key : String) (text : List Char) : List Char :=
  (quote key).toList ++ ':' :: (colon ++ text)

section

variable {blanks ending colon : List Char} (blank : ∀ c ∈ blanks, isBlank c = true)
  (blankEnd : ∀ c ∈ ending, isBlank c = true) (blankColon : ∀ c ∈ colon, isBlank c = true)
  {v : Value} {text : List Char} (reads : Reads v text) {depth : Nat}
  (deep : text.length ≤ depth) (key : String)

include blank blankColon reads deep

include blankEnd in
theorem members_last (fuel : Nat) (rest : List Char) :
    members (fun cs => value depth cs) (fuel + 1)
      (blanks ++ (memberText colon key text ++ (ending ++ '\x7d' :: rest))) =
        some ([(key, v)], rest) := by
  have front := skipBlanks_part blank (reads_string key)
    (':' :: (colon ++ (text ++ (ending ++ '\x7d' :: rest))))
  have read := reads.value depth deep _ (ends_bracket blankEnd '\x7d' rfl rest)
  have closed := skipBlanks_bracket blankEnd '\x7d' rfl rest
  have between : ∀ tail, skipBlanks (':' :: tail) = ':' :: tail := fun tail => rfl
  simp only [memberText, List.append_assoc, List.cons_append]
  rw [members, front, toList_quote]
  simp only [List.cons_append, List.append_assoc, List.nil_append, stringBody_quote,
    Option.bind_eq_bind, Option.bind_some, between, skipBlanks_part blankColon reads, read, closed,
    String.ofList_toList]

theorem members_next (fuel : Nat) (rest : List Char) :
    members (fun cs => value depth cs) (fuel + 1)
      (blanks ++ (memberText colon key text ++ ',' :: rest)) =
        (members (fun cs => value depth cs) fuel rest).map
          fun (entries, rest) => ((key, v) :: entries, rest) := by
  have front := skipBlanks_part blank (reads_string key)
    (':' :: (colon ++ (text ++ ',' :: rest)))
  have ends : ∀ c ∈ (',' :: rest).head?, isNumberChar c = false := by
    rintro c ⟨⟩
    rfl
  have read := reads.value depth deep _ ends
  have between : ∀ tail, skipBlanks (':' :: tail) = ':' :: tail := fun tail => rfl
  have comma : skipBlanks (',' :: rest) = ',' :: rest := rfl
  simp only [memberText, List.append_assoc, List.cons_append]
  rw [members, front, toList_quote]
  simp only [List.cons_append, List.append_assoc, List.nil_append, stringBody_quote,
    Option.bind_eq_bind, Option.bind_some, between, skipBlanks_part blankColon reads, read, comma,
    String.ofList_toList]
  cases members (fun cs => value depth cs) fuel rest <;> rfl

end

def ReadsMember (colon : List Char) (member : String × Value) (text : List Char) : Prop :=
  ∃ inner, Reads member.2 inner ∧ text = memberText colon member.1 inner

theorem members_between {blanks ending colon : List Char}
    (blank : ∀ c ∈ blanks, isBlank c = true) (blankEnd : ∀ c ∈ ending, isBlank c = true)
    (blankColon : ∀ c ∈ colon, isBlank c = true) {entries : List (String × Value)}
    {texts : List (List Char)} (reads : List.Forall₂ (ReadsMember colon) entries texts)
    (nonempty : entries ≠ []) {depth fuel : Nat} (deep : ∀ text ∈ texts, text.length ≤ depth)
    (enough : texts.length ≤ fuel) (rest : List Char) :
    members (fun cs => value depth cs) fuel (between blanks ending texts ++ '\x7d' :: rest) =
      some (entries, rest) := by
  induction reads generalizing fuel with
  | nil => exact absurd rfl nonempty
  | @cons member _ _ _ first others ih =>
    obtain ⟨inner, read, rfl⟩ := first
    have here : inner.length ≤ depth := by
      have whole := deep _ List.mem_cons_self
      simp [memberText] at whole
      omega
    cases fuel with
    | zero => cases enough
    | succ fuel =>
      cases others with
      | nil =>
        have last := members_last blank blankEnd blankColon read here member.1 fuel rest
        simpa [between] using last
      | cons second others =>
        have later := ih (by simp) (fun text member => deep text (List.mem_cons_of_mem _ member))
          (Nat.le_of_succ_le_succ enough)
        rw [between_cons, List.append_assoc, List.append_assoc, List.cons_append,
          members_next blank blankColon read here, later]
        rfl

theorem length_le_intercalate {sep text : List Char} {texts : List (List Char)}
    (member : text ∈ texts) : text.length ≤ (sep.intercalate texts).length := by
  induction texts with
  | nil => cases member
  | cons first texts ih =>
    cases texts with
    | nil =>
      rw [List.mem_singleton] at member
      simp [member]
    | cons second texts =>
      rw [List.intercalate_cons_cons]
      simp only [List.length_append]
      rcases List.mem_cons.mp member with rfl | later
      · omega
      · have inside := ih later
        omega

theorem length_le_between (blanks ending : List Char) {text : List Char}
    {texts : List (List Char)} (member : text ∈ texts) :
    text.length ≤ (between blanks ending texts).length := by
  have inside : text.length ≤ ((',' :: blanks).intercalate texts).length :=
    length_le_intercalate member
  simp only [between, List.length_append]
  omega

theorem count_le_intercalate (c : Char) (sep : List Char) (texts : List (List Char)) :
    texts.length ≤ ((c :: sep).intercalate texts).length + 1 := by
  induction texts with
  | nil => simp
  | cons first texts ih =>
    cases texts with
    | nil => simp
    | cons second texts =>
      rw [List.intercalate_cons_cons]
      simp only [List.length_append, List.length_cons] at ih ⊢
      omega

theorem skipBlanks_skipBlanks (cs : List Char) : skipBlanks (skipBlanks cs) = skipBlanks cs :=
  List.dropWhile_idempotent isBlank cs

theorem elements_skipBlanks (item : List Char → Option (Value × List Char)) (fuel : Nat)
    (cs : List Char) : elements item fuel (skipBlanks cs) = elements item fuel cs := by
  cases fuel with
  | zero => rfl
  | succ fuel => rw [elements, elements, skipBlanks_skipBlanks]

theorem members_skipBlanks (item : List Char → Option (Value × List Char)) (fuel : Nat)
    (cs : List Char) : members item fuel (skipBlanks cs) = members item fuel cs := by
  cases fuel with
  | zero => rfl
  | succ fuel => rw [members, members, skipBlanks_skipBlanks]

theorem value_array {depth : Nat} {rest : List Char}
    (filled : ∀ more, skipBlanks rest ≠ ']' :: more) :
    value (depth + 1) ('[' :: rest) =
      (elements (fun cs => value depth cs) (skipBlanks rest).length rest).map
        fun (values, rest) => (.array values, rest) := by
  rw [← elements_skipBlanks]
  simp [value]

theorem value_table {depth : Nat} {rest : List Char}
    (filled : ∀ more, skipBlanks rest ≠ '\x7d' :: more) :
    value (depth + 1) ('\x7b' :: rest) =
      (members (fun cs => value depth cs) (skipBlanks rest).length rest).map
        fun (entries, rest) => (.table entries, rest) := by
  rw [← members_skipBlanks]
  simp [value]

theorem intercalate_eq_cons (sep : List Char) (first : Char) (more : List Char)
    (texts : List (List Char)) :
    ∃ rest, sep.intercalate ((first :: more) :: texts) = first :: rest := by
  cases texts with
  | nil => exact ⟨more, by simp⟩
  | cons second texts =>
    exact ⟨more ++ sep ++ sep.intercalate (second :: texts), by
      rw [List.intercalate_cons_cons]
      rfl⟩

theorem skipBlanks_between {blanks : List Char} (blank : ∀ c ∈ blanks, isBlank c = true)
    {first : Char} (noBlank : isBlank first = false) (ending more : List Char)
    (texts : List (List Char)) (bracket : Char) (rest : List Char) :
    (∃ others, skipBlanks (between blanks ending ((first :: more) :: texts) ++ bracket :: rest) =
      first :: others) ∧ ((first :: more) :: texts).length ≤
    (skipBlanks (between blanks ending ((first :: more) :: texts) ++ bracket :: rest)).length := by
  have count := count_le_intercalate ',' blanks ((first :: more) :: texts)
  obtain ⟨others, joined⟩ := intercalate_eq_cons (',' :: blanks) first more texts
  have skipped : skipBlanks (between blanks ending ((first :: more) :: texts) ++ bracket :: rest) =
      (',' :: blanks).intercalate ((first :: more) :: texts) ++ (ending ++ bracket :: rest) := by
    rw [between, List.append_assoc, List.append_assoc]
    apply dropWhile_run blank
    rw [joined]
    rintro c ⟨⟩
    exact noBlank
  rw [skipped]
  constructor
  · exact ⟨others ++ (ending ++ bracket :: rest), by rw [joined]; rfl⟩
  · simp only [List.length_append, List.length_cons] at count ⊢
    omega

theorem reads_array {blanks ending : List Char} (blank : ∀ c ∈ blanks, isBlank c = true)
    (blankEnd : ∀ c ∈ ending, isBlank c = true) {values : List Value} {texts : List (List Char)}
    (reads : List.Forall₂ Reads values texts) (nonempty : values ≠ []) :
    Reads (.array values) ('[' :: (between blanks ending texts ++ [']'])) where
  start := ⟨'[', _, rfl, rfl, by simp⟩
  value := by
    intro depth deep rest _
    cases depth with
    | zero => cases deep
    | succ depth =>
      have inside : ∀ text ∈ texts, text.length ≤ depth := by
        intro text member
        have part := length_le_between blanks ending member
        simp only [List.length_cons, List.length_append] at deep
        omega
      cases reads with
      | nil => exact absurd rfl nonempty
      | cons first others =>
        obtain ⟨c, more, rfl, noBlank, noBracket⟩ := first.start
        obtain ⟨⟨_, opened⟩, enough⟩ := skipBlanks_between blank noBlank ending more _ ']' rest
        rw [List.cons_append, List.append_assoc, List.singleton_append, value_array,
          elements_between blank blankEnd (.cons first others) nonempty inside enough]
        · rfl
        · rw [opened]
          simp [noBracket]

theorem reads_table {blanks ending colon : List Char} (blank : ∀ c ∈ blanks, isBlank c = true)
    (blankEnd : ∀ c ∈ ending, isBlank c = true) (blankColon : ∀ c ∈ colon, isBlank c = true)
    {entries : List (String × Value)} {texts : List (List Char)}
    (reads : List.Forall₂ (ReadsMember colon) entries texts) (nonempty : entries ≠ []) :
    Reads (.table entries) ('\x7b' :: (between blanks ending texts ++ ['\x7d'])) where
  start := ⟨'\x7b', _, rfl, rfl, by simp⟩
  value := by
    intro depth deep rest _
    cases depth with
    | zero => cases deep
    | succ depth =>
      have inside : ∀ text ∈ texts, text.length ≤ depth := by
        intro text member
        have part := length_le_between blanks ending member
        simp only [List.length_cons, List.length_append] at deep
        omega
      cases reads with
      | nil => exact absurd rfl nonempty
      | @cons _ text _ _ first others =>
        have start : ∃ more, text = '"' :: more := by
          obtain ⟨inner, -, rfl⟩ := first
          rw [memberText, toList_quote]
          exact ⟨_, rfl⟩
        obtain ⟨more, rfl⟩ := start
        have noBlank : isBlank '"' = false := rfl
        obtain ⟨⟨_, opened⟩, enough⟩ := skipBlanks_between blank noBlank ending more _ '\x7d' rest
        rw [List.cons_append, List.append_assoc, List.singleton_append, value_table,
          members_between blank blankEnd blankColon (.cons first others) nonempty inside enough]
        · rfl
        · rw [opened]
          simp

theorem reads_emptyArray : Reads (.array []) ['[', ']'] where
  start := ⟨'[', _, rfl, rfl, by simp⟩
  value := by
    intro depth _ rest _
    cases depth <;> rfl

theorem reads_emptyTable : Reads (.table []) ['\x7b', '\x7d'] where
  start := ⟨'\x7b', _, rfl, rfl, by simp⟩
  value := by
    intro depth _ rest _
    cases depth <;> rfl

theorem read?_append {v : Value} {text ending : String} (reads : Reads v text.toList)
    (blankEnd : ∀ c ∈ ending.toList, isBlank c = true) : read? (text ++ ending) = some v := by
  have noBlanks : ∀ c ∈ ([] : List Char), isBlank c = true := by simp
  have front := skipBlanks_part noBlanks reads ending.toList
  have ends : ∀ c ∈ ending.toList.head?, isNumberChar c = false := by
    intro c first
    exact isNumberChar_of_isBlank (blankEnd c (List.mem_of_mem_head? first))
  have read := reads.value (text.toList ++ ending.toList).length (by simp) _ ends
  have closed : skipBlanks ending.toList = [] := List.dropWhile_eq_nil_iff.mpr blankEnd
  rw [List.nil_append] at front
  simp only [read?, String.toList_append, front, read, closed]
  rfl

end DevicePlan.Json
