import DevicePlan.Toml.Reader
import DevicePlan.Toml.Writer

/-!
# Quoted strings read back

What the writer puts between quotes is what the reader takes out of them, for each kind of quotes
that fits a text (`quoted_write`), and the quotes that the writer chooses fit (`fits_ofText`,
`fits_ofKey`). Double quotes, single or triple, fit every text, because what they cannot hold is
escaped. In triple double quotes up to two quotes in a row stand as they are, so a reader that sees
quotes must look ahead: `longBasicBody_escapeLongBasic` carries the quotes written last.
-/

namespace DevicePlan.Toml

theorem push_push (first second : List Char) (read : Option (List Char × List Char)) :
    push first (push second read) = push (first ++ second) read := by
  cases read <;> simp [push]

inductive Escape (c : Char) : List Char → Prop where
  | short {letter : Char} (means : shortEscape? letter = some c) : Escape c ['\\', letter]
  | numbered {digit₁ digit₂ digit₃ digit₄ : Char}
    (means : numbered? [digit₁, digit₂, digit₃, digit₄] = some c) :
    Escape c ['\\', 'u', digit₁, digit₂, digit₃, digit₄]

theorem Escape.exists_cons {c : Char} {escape : List Char} (means : Escape c escape) :
    ∃ more, escape = '\\' :: more := by
  cases means with
  | short means => exact ⟨_, rfl⟩
  | numbered means => exact ⟨_, rfl⟩

theorem numbered?_hexDigits : ∀ n < 128, numbered? ['0', '0', (Nat.digitChar (n / 16)).toUpper,
    (Nat.digitChar (n % 16)).toUpper] = some (Char.ofNat n) := by
  decide

theorem toNat_lt_of_needsEscape {c : Char} (special : needsEscape c = true) : c.toNat < 128 := by
  simp only [needsEscape, Bool.or_eq_true, decide_eq_true_eq] at special
  rcases special with ((rfl | rfl) | control) | delete
  · decide
  · decide
  · omega
  · omega

theorem escape_escapeChar {c : Char} (special : needsEscape c = true) :
    Escape c (escapeChar c) := by
  unfold escapeChar
  split
  · exact .short rfl
  · exact .short rfl
  · exact .short rfl
  · exact .short rfl
  · exact .short rfl
  · exact .short rfl
  · exact .short rfl
  · have means := numbered?_hexDigits c.toNat (toNat_lt_of_needsEscape special)
    rw [Char.ofNat_toNat] at means
    exact .numbered means

theorem letter_of_shortEscape? {letter c : Char} (means : shortEscape? letter = some c) :
    letter ≠ 'u' ∧ letter ≠ 'U' ∧ letter ≠ '\r' ∧ letter ≠ '\n' ∧ isBlank letter = false := by
  unfold shortEscape? at means
  split at means
  all_goals first
    | decide
    | cases means

theorem plain_of_needsEscape {c : Char} (plain : needsEscape c = false) :
    c ≠ '"' ∧ c ≠ '\\' ∧ c ≠ '\r' ∧ isTextChar c = true := by
  simp only [needsEscape, Bool.or_eq_false_iff, decide_eq_false_iff_not] at plain
  obtain ⟨⟨⟨noQuote, noBackslash⟩, noControl⟩, noDelete⟩ := plain
  refine ⟨noQuote, noBackslash, ?_, ?_⟩
  · rintro rfl
    exact noControl (by decide)
  · simp only [isTextChar, Bool.or_eq_true, Bool.and_eq_true, decide_eq_true_eq]
    exact .inr ⟨Nat.le_of_not_lt noControl, noDelete⟩

theorem basicBody_escape {c : Char} {escape : List Char} (means : Escape c escape)
    (tail : List Char) : basicBody (escape ++ tail) = push [c] (basicBody tail) := by
  cases means with
  | short means =>
    obtain ⟨notNumber, notLongNumber, -⟩ := letter_of_shortEscape? means
    rw [List.cons_append, List.cons_append, List.nil_append, basicBody, means, pushChar] <;>
      simp_all
  | numbered means =>
    simp only [List.cons_append, List.nil_append]
    rw [basicBody, means, pushChar]

theorem basicBody_escapeBasic (cs rest : List Char) :
    basicBody (escapeBasic cs ++ '"' :: rest) = some (cs, rest) := by
  induction cs with
  | nil =>
    rw [escapeBasic, List.flatMap_nil, List.nil_append, basicBody] <;> simp
  | cons c cs ih =>
    have step : basicBody ((if needsEscape c then escapeChar c else [c]) ++
        (escapeBasic cs ++ '"' :: rest)) =
        push [c] (basicBody (escapeBasic cs ++ '"' :: rest)) := by
      cases special : needsEscape c with
      | true => exact basicBody_escape (escape_escapeChar special) _
      | false =>
        obtain ⟨noQuote, noBackslash, -, text⟩ := plain_of_needsEscape special
        simp only [Bool.false_eq_true, if_false, List.cons_append, List.nil_append]
        rw [basicBody] <;> simp_all
    rw [escapeBasic, List.flatMap_cons, ← escapeBasic, List.append_assoc, step, ih]
    rfl

theorem literalBody_append {cs : List Char} (noQuote : '\'' ∉ cs)
    (text : ∀ c ∈ cs, isTextChar c = true) (rest : List Char) :
    literalBody (cs ++ '\'' :: rest) = some (cs, rest) := by
  induction cs with
  | nil => simp [literalBody]
  | cons c cs ih =>
    obtain ⟨differs, later⟩ := List.ne_and_not_mem_of_not_mem_cons noQuote
    have read := ih later fun other member => text other (List.mem_cons_of_mem c member)
    have here := text c List.mem_cons_self
    simp [literalBody, Ne.symm differs, here, read, push]

theorem longBasicBody_escape {c : Char} {escape : List Char} (means : Escape c escape)
    (tail : List Char) :
    longBasicBody .off (escape ++ tail) = push [c] (longBasicBody .off tail) := by
  cases means with
  | short means =>
    obtain ⟨notNumber, notLongNumber, notReturn, notNewline, notBlank⟩ :=
      letter_of_shortEscape? means
    rw [List.cons_append, List.cons_append, List.nil_append, longBasicBody] <;>
      simp_all [pushChar]
  | numbered means =>
    simp only [List.cons_append, List.nil_append]
    rw [longBasicBody, means, pushChar]
    simp

theorem longBasicBody_plain {c : Char} (noQuote : c ≠ '"') (noBackslash : c ≠ '\\')
    (noReturn : c ≠ '\r') (text : c = '\n' ∨ isTextChar c = true) (tail : List Char) :
    longBasicBody .off (c :: tail) = push [c] (longBasicBody .off tail) := by
  rw [longBasicBody] <;> simp_all

theorem longBasicBody_quotes {count : Nat} (few : count ≤ 2) {c : Char} (noQuote : c ≠ '"')
    (tail : List Char) : longBasicBody .off (List.replicate count '"' ++ c :: tail) =
      push (List.replicate count '"') (longBasicBody .off (c :: tail)) := by
  have one : longBasicBody .off ('"' :: c :: tail) =
      push ['"'] (longBasicBody .off (c :: tail)) := by
    rw [longBasicBody] <;> simp_all [isTextChar]
  have two : longBasicBody .off ('"' :: '"' :: c :: tail) =
      push ['"'] (longBasicBody .off ('"' :: c :: tail)) := by
    rw [longBasicBody] <;> simp_all [isTextChar]
  match count, few with
  | 0, _ => simp [push]
  | 1, _ => exact one
  | 2, _ =>
    refine two.trans ?_
    rw [one, push_push]
    rfl

theorem longBasicBody_close {count : Nat} (few : count ≤ 2) {rest : List Char}
    (closed : rest.head? ≠ some '"') :
    longBasicBody .off (List.replicate count '"' ++ '"' :: '"' :: '"' :: rest) =
      some (List.replicate count '"', rest) := by
  match count, few with
  | 0, _ => cases rest <;> simp_all [longBasicBody]
  | 1, _ => cases rest <;> simp_all [longBasicBody, List.replicate]
  | 2, _ => simp [longBasicBody, List.replicate]

def longBasicChar (c : Char) : List Char :=
  if c ≠ '\n' ∧ needsEscape c then escapeChar c else [c]

theorem escapeLongBasic_cons {c : Char} (noQuote : c ≠ '"') (count : Nat) (cs : List Char) :
    escapeLongBasic count (c :: cs) = longBasicChar c ++ escapeLongBasic 0 cs := by
  rw [escapeLongBasic, longBasicChar]
  exact noQuote

theorem longBasicChar_eq_cons (c : Char) :
    ∃ first more, longBasicChar c = first :: more ∧ (first = '\\' ∨ first = c ∧ c ≠ '\r') := by
  unfold longBasicChar
  split
  · rename_i special
    obtain ⟨more, written⟩ := (escape_escapeChar special.2).exists_cons
    exact ⟨_, more, written, .inl rfl⟩
  · rename_i raw
    refine ⟨c, [], rfl, .inr ⟨rfl, ?_⟩⟩
    rintro rfl
    exact raw (by decide)

theorem longBasicBody_longBasicChar {c : Char} (noQuote : c ≠ '"') (tail : List Char) :
    longBasicBody .off (longBasicChar c ++ tail) = push [c] (longBasicBody .off tail) := by
  unfold longBasicChar
  split
  · rename_i special
    exact longBasicBody_escape (escape_escapeChar special.2) tail
  · rename_i raw
    by_cases newline : c = '\n'
    · subst newline
      exact longBasicBody_plain (by decide) (by decide) (by decide) (.inl rfl) tail
    · have plain : needsEscape c = false := by simpa [newline] using raw
      obtain ⟨-, noBackslash, noReturn, text⟩ := plain_of_needsEscape plain
      exact longBasicBody_plain noQuote noBackslash noReturn (.inr text) tail

/-- `count` quotes have just been written, after which the text goes on. -/
theorem longBasicBody_escapeLongBasic {count : Nat} (few : count ≤ 2) (cs : List Char)
    {rest : List Char} (closed : rest.head? ≠ some '"') :
    longBasicBody .off (List.replicate count '"' ++ (escapeLongBasic count cs ++
      '"' :: '"' :: '"' :: rest)) = some (List.replicate count '"' ++ cs, rest) := by
  -- The quotes before the text grow by one for each raw quote and are gone after anything else.
  induction cs generalizing count with
  | nil =>
    rw [escapeLongBasic, List.nil_append, List.append_nil]
    exact longBasicBody_close few closed
  | cons c cs ih =>
    have fresh := ih (Nat.zero_le 2)
    simp only [List.replicate_zero, List.nil_append] at fresh
    by_cases quote : c = '"'
    · subst quote
      rw [escapeLongBasic]
      split
      · rename_i fewer
        have grown := ih fewer
        rw [List.replicate_succ', List.append_assoc, List.append_assoc] at grown
        exact grown
      · have escaped : longBasicBody .off ('\\' :: '"' :: (escapeLongBasic 0 cs ++
            '"' :: '"' :: '"' :: rest)) = push ['"'] (some (cs, rest)) := by
          rw [← fresh]
          exact longBasicBody_escape (.short rfl) _
        rw [List.cons_append, List.cons_append, longBasicBody_quotes few (by decide), escaped]
        rfl
    · obtain ⟨first, more, written, start⟩ := longBasicChar_eq_cons c
      have noQuote : first ≠ '"' := by
        rcases start with rfl | ⟨rfl, -⟩
        · decide
        · exact quote
      rw [escapeLongBasic_cons quote, List.append_assoc, written, List.cons_append,
        longBasicBody_quotes few noQuote, ← List.cons_append, ← written,
        longBasicBody_longBasicChar quote, fresh]
      rfl

theorem hasTriple_of_cons {quote c : Char} {cs : List Char}
    (none : hasTriple quote (c :: cs) = false) : hasTriple quote cs = false := by
  match cs with
  | [] => rfl
  | [_] => rfl
  | _ :: _ :: _ => 
    rw [hasTriple, Bool.or_eq_false_iff] at none
    exact none.2

theorem ne_return_of_text {c : Char} (text : c = '\n' ∨ isTextChar c = true) : c ≠ '\r' := by
  rintro rfl
  revert text
  decide

theorem longLiteralBody_plain {c : Char} {tail : List Char}
    (single : c = '\'' → ∀ more, tail ≠ '\'' :: '\'' :: more)
    (text : c = '\n' ∨ isTextChar c = true) :
    longLiteralBody (c :: tail) = push [c] (longLiteralBody tail) := by
  have noReturn := ne_return_of_text text
  rw [longLiteralBody] <;> simp_all

theorem longLiteralBody_append {cs : List Char} (noTriple : hasTriple '\'' cs = false)
    (text : ∀ c ∈ cs, c = '\n' ∨ isTextChar c = true) {rest : List Char}
    (closed : rest.head? ≠ some '\'') :
    longLiteralBody (cs ++ '\'' :: '\'' :: '\'' :: rest) = some (cs, rest) := by
  induction cs with
  | nil => cases rest <;> simp_all [longLiteralBody]
  | cons c cs ih =>
    have read := ih (hasTriple_of_cons noTriple) fun other member =>
      text other (List.mem_cons_of_mem c member)
    have here := text c List.mem_cons_self
    by_cases atEnd : c = '\'' ∧ (cs = [] ∨ cs = ['\''])
    · -- Up to two quotes before the closing ones are read together with these.
      obtain ⟨rfl, rfl | rfl⟩ := atEnd
      · cases rest <;> simp_all [longLiteralBody]
      · simp [longLiteralBody]
    · have single : c = '\'' → ∀ more, cs ++ '\'' :: '\'' :: '\'' :: rest ≠
          '\'' :: '\'' :: more := by
        rintro rfl more twice
        match cs with
        | [] => exact atEnd ⟨rfl, .inl rfl⟩
        | [_] => simp_all
        | _ :: _ :: _ => simp_all [hasTriple]
      rw [List.cons_append, longLiteralBody_plain single here, read]
      rfl

def Quotes.Fits : Quotes → List Char → Prop
  | basic, _ => True
  | literal, cs => '\'' ∉ cs ∧ ∀ c ∈ cs, isTextChar c = true
  | longBasic, _ => True
  | longLiteral, cs => hasTriple '\'' cs = false ∧ ∀ c ∈ cs, c = '\n' ∨ isTextChar c = true

theorem isTextChar_of_not_isControl {c : Char} (ordinary : ¬isControl c = true) :
    c = '\n' ∨ isTextChar c = true := by
  by_cases newline : c = '\n'
  · exact .inl newline
  · by_cases tab : c = '\t'
    · exact .inr (by rw [tab]; decide)
    · right
      simp_all [isControl, isTextChar]

theorem Quotes.fits_ofText (cs : List Char) : (Quotes.ofText cs).Fits cs := by
  simp only [ofText, Bool.and_eq_true, Bool.not_eq_true']
  split
  · trivial
  · split
    · rename_i suits
      obtain ⟨⟨noQuote, oneLine⟩, ordinary⟩ := suits
      refine ⟨by simpa using noQuote, fun c member => ?_⟩
      have noNewline : c ≠ '\n' := by
        rintro rfl
        simp [member] at oneLine
      exact (isTextChar_of_not_isControl (List.any_eq_false.mp ordinary c member)).resolve_left
        noNewline
    · split
      · trivial
      · split
        · rename_i suits
          obtain ⟨ordinary, noTriple⟩ := suits
          exact ⟨noTriple, fun c member =>
            isTextChar_of_not_isControl (List.any_eq_false.mp ordinary c member)⟩
        · split <;> trivial

theorem Quotes.fits_ofKey (cs : List Char) : (Quotes.ofKey cs).Fits cs := by
  simp only [ofKey, Bool.and_eq_true, Bool.not_eq_true']
  split
  · trivial
  · split
    · rename_i suits
      obtain ⟨noQuote, ordinary⟩ := suits
      refine ⟨by simpa using noQuote, fun c member => ?_⟩
      have neither := List.any_eq_false.mp ordinary c member
      simp only [Bool.or_eq_true, decide_eq_true_eq, not_or] at neither
      exact (isTextChar_of_not_isControl neither.2).resolve_left neither.1
    · trivial

theorem skipFirstLineEnd_append {cs tail : List Char}
    (plain : '\n' ∉ cs → tail.head? ≠ some '\n' ∧ tail.head? ≠ some '\r') :
    skipFirstLineEnd (firstLineEnd cs ++ tail) = tail := by
  unfold firstLineEnd
  split
  · rfl
  · rename_i absent
    have start := plain (by simpa using absent)
    cases tail with
    | nil => rfl
    | cons c more =>
      rw [List.nil_append, skipFirstLineEnd] <;> simp_all

theorem quoted_basic (cs : List Char) {rest : List Char} (closed : rest.head? ≠ some '"') :
    quoted ('"' :: (escapeBasic cs ++ '"' :: rest)) = some (cs, rest) := by
  have single : ∀ more, escapeBasic cs ++ '"' :: rest ≠ '"' :: '"' :: more := by
    intro more triple
    cases cs with
    | nil => simp_all [escapeBasic]
    | cons c cs =>
      rw [escapeBasic, List.flatMap_cons, List.append_assoc] at triple
      split at triple
      · rename_i special
        obtain ⟨others, written⟩ := (escape_escapeChar special).exists_cons
        simp_all
      · rename_i plain
        have noQuote := (plain_of_needsEscape (by simpa using plain)).1
        simp_all
  rw [quoted]
  · exact basicBody_escapeBasic cs rest
  · exact single

theorem quoted_literal {cs : List Char} (noQuote : '\'' ∉ cs)
    (text : ∀ c ∈ cs, isTextChar c = true) {rest : List Char} (closed : rest.head? ≠ some '\'') :
    quoted ('\'' :: (cs ++ '\'' :: rest)) = some (cs, rest) := by
  have single : ∀ more, cs ++ '\'' :: rest ≠ '\'' :: '\'' :: more := by
    intro more triple
    cases cs <;> simp_all
  rw [quoted]
  · exact literalBody_append noQuote text rest
  · exact single

theorem quoted_write {quotes : Quotes} {cs : List Char} (fits : quotes.Fits cs)
    {rest : List Char} (afterDouble : rest.head? ≠ some '"')
    (afterSingle : rest.head? ≠ some '\'') :
    quoted (quotes.write cs ++ rest) = some (cs, rest) := by
  cases quotes with
  | basic =>
    simp only [Quotes.write, List.cons_append, List.nil_append, List.append_assoc]
    exact quoted_basic cs afterDouble
  | literal =>
    simp only [Quotes.write, List.cons_append, List.nil_append, List.append_assoc]
    exact quoted_literal fits.1 fits.2 afterSingle
  | longBasic =>
    have start : '\n' ∉ cs →
        (escapeLongBasic 0 cs ++ '"' :: '"' :: '"' :: rest).head? ≠ some '\n' ∧
        (escapeLongBasic 0 cs ++ '"' :: '"' :: '"' :: rest).head? ≠ some '\r' := by
      intro absent
      cases cs with
      | nil => simp [escapeLongBasic]
      | cons c cs =>
        by_cases quote : c = '"'
        · simp [quote, escapeLongBasic]
        · obtain ⟨first, more, written, start⟩ := longBasicChar_eq_cons c
          rw [escapeLongBasic_cons quote, written]
          rcases start with rfl | ⟨rfl, noReturn⟩
          · simp
          · simp only [List.cons_append, List.head?_cons, ne_eq, Option.some.injEq]
            exact ⟨fun newline => absent (newline ▸ List.mem_cons_self), noReturn⟩
    simp only [Quotes.write, List.cons_append, List.nil_append, List.append_assoc]
    rw [quoted, skipFirstLineEnd_append start]
    exact longBasicBody_escapeLongBasic (Nat.zero_le 2) cs afterDouble
  | longLiteral =>
    have start : '\n' ∉ cs → (cs ++ '\'' :: '\'' :: '\'' :: rest).head? ≠ some '\n' ∧
        (cs ++ '\'' :: '\'' :: '\'' :: rest).head? ≠ some '\r' := by
      intro absent
      cases cs with
      | nil => simp
      | cons c cs =>
        have noReturn := ne_return_of_text (fits.2 c List.mem_cons_self)
        simp only [List.cons_append, List.head?_cons, ne_eq, Option.some.injEq]
        exact ⟨fun newline => absent (newline ▸ List.mem_cons_self), noReturn⟩
    simp only [Quotes.write, List.cons_append, List.nil_append, List.append_assoc]
    rw [quoted, skipFirstLineEnd_append start]
    exact longLiteralBody_append fits.1 fits.2 afterSingle

end DevicePlan.Toml
