import DevicePlan.Proofs.Json.Text

/-!
# Blanks outside strings

A scan over a JSON text knows at every character whether it stands in a string, so it can leave out
the blanks that only lay the text out (`dense`) and keep those of a string. Of the pretty text of a
value it leaves the compact one (`withoutBlanks_pretty`).
-/

namespace DevicePlan.Json

inductive Scan where
  | outside
  | inside
  | escaped
deriving DecidableEq

def Scan.next : Scan → Char → Scan
  | outside, c => if c = '"' then inside else outside
  | inside, c => if c = '"' then outside else if c = '\\' then escaped else inside
  | escaped, _ => inside

def dense (scan : Scan) : List Char → List Char
  | [] => []
  | c :: rest =>
    if scan = .outside ∧ isBlank c = true then dense scan rest
    else c :: dense (scan.next c) rest

/-- Wherever the text stands outside strings, a scan keeps so much of it and is outside again. -/
def Thins (text kept : List Char) : Prop :=
  ∀ rest, dense .outside (text ++ rest) = kept ++ dense .outside rest

theorem thins_nil : Thins [] [] := fun _ => rfl

theorem Thins.append {first second firstKept secondKept : List Char} (left : Thins first firstKept)
    (right : Thins second secondKept) : Thins (first ++ second) (firstKept ++ secondKept) := by
  intro rest
  rw [List.append_assoc, left, right, List.append_assoc]

theorem thins_blanks {blanks : List Char} (blank : ∀ c ∈ blanks, isBlank c = true) :
    Thins blanks [] := by
  intro rest
  induction blanks with
  | nil => rfl
  | cons c blanks ih =>
    rw [List.cons_append, dense, if_pos ⟨rfl, blank c List.mem_cons_self⟩]
    exact ih fun other member => blank other (List.mem_cons_of_mem c member)

theorem thins_plain {text : List Char} (plain : ∀ c ∈ text, isBlank c = false ∧ c ≠ '"') :
    Thins text text := by
  intro rest
  induction text with
  | nil => rfl
  | cons c text ih =>
    obtain ⟨noBlank, noQuote⟩ := plain c List.mem_cons_self
    have later := ih fun other member => plain other (List.mem_cons_of_mem c member)
    simp [dense, Scan.next, noBlank, noQuote, later]

theorem thins_mark {c : Char} (plain : isBlank c = false ∧ c ≠ '"') : Thins [c] [c] :=
  thins_plain fun _ member => (List.mem_singleton.mp member).symm ▸ plain

theorem dense_inside {c : Char} (noQuote : c ≠ '"') (noBackslash : c ≠ '\\') (rest : List Char) :
    dense .inside (c :: rest) = c :: dense .inside rest := by
  simp [dense, Scan.next, noQuote, noBackslash]

theorem hexDigit_ordinary : ∀ n < 0x20, hexDigit (n / 16) ≠ '"' ∧ hexDigit (n / 16) ≠ '\\' ∧
    hexDigit (n % 16) ≠ '"' ∧ hexDigit (n % 16) ≠ '\\' := by
  decide

theorem dense_escapeChar (c : Char) (rest : List Char) :
    dense .inside (escapeChar c ++ rest) = escapeChar c ++ dense .inside rest := by
  unfold escapeChar
  split
  · rfl
  · rfl
  · rfl
  · rfl
  · rfl
  · rfl
  · rfl
  · split
    · rename_i control
      obtain ⟨highQuote, highBackslash, lowQuote, lowBackslash⟩ := hexDigit_ordinary c.toNat control
      have low := dense_inside lowQuote lowBackslash rest
      have high := dense_inside highQuote highBackslash (hexDigit (c.toNat % 16) :: rest)
      simp only [List.cons_append, List.nil_append]
      rw [← low, ← high]
      rfl
    · apply dense_inside <;> assumption

theorem thins_quote (text : String) : Thins (quote text).toList (quote text).toList := by
  have body (cs rest : List Char) : dense .inside (cs.flatMap escapeChar ++ '"' :: rest) =
      cs.flatMap escapeChar ++ '"' :: dense .outside rest := by
    induction cs with
    | nil => rfl
    | cons c cs ih =>
      rw [List.flatMap_cons, List.append_assoc, dense_escapeChar, ih, List.append_assoc]
  intro rest
  have opened (cs : List Char) : dense .outside ('"' :: cs) = '"' :: dense .inside cs := rfl
  rw [toList_quote, List.cons_append, opened, List.append_assoc, List.singleton_append, body]
  simp

theorem thins_intercalate {sep sepKept : List Char} (thin : Thins sep sepKept)
    {texts kept : List (List Char)} (parts : List.Forall₂ Thins texts kept) :
    Thins (sep.intercalate texts) (sepKept.intercalate kept) := by
  induction parts with
  | nil => exact thins_nil
  | @cons first _ _ _ here others ih =>
    cases others with
    | nil => simpa using here
    | cons second others =>
      rw [List.intercalate_cons_cons, List.intercalate_cons_cons]
      exact (here.append thin).append ih

theorem thins_enclosed {blanks ending : List Char} (blank : ∀ c ∈ blanks, isBlank c = true)
    (blankEnd : ∀ c ∈ ending, isBlank c = true) {texts kept : List (List Char)}
    (parts : List.Forall₂ Thins texts kept) :
    Thins (enclosed blanks ending texts) (enclosed [] [] kept) := by
  have mark : Thins [','] [','] := thins_mark (by decide)
  have comma : Thins (',' :: blanks) [','] := mark.append (thins_blanks blank)
  have joined : Thins (between blanks ending texts) (between [] [] kept) :=
    ((thins_blanks blank).append (thins_intercalate comma parts)).append (thins_blanks blankEnd)
  cases parts with
  | nil => exact thins_nil
  | cons first others => exact joined

theorem thins_brackets {opening closing : Char} {text kept : List Char} (thin : Thins text kept)
    (first : Thins [opening] [opening]) (last : Thins [closing] [closing]) :
    Thins (opening :: (text ++ [closing])) (opening :: (kept ++ [closing])) :=
  first.append (thin.append last)

theorem thins_memberText {colon : List Char} (blank : ∀ c ∈ colon, isBlank c = true) (key : String)
    {text kept : List Char} (thin : Thins text kept) :
    Thins (memberText colon key text) (memberText [] key kept) := by
  have mark : Thins [':'] [':'] := thins_mark (by decide)
  exact (thins_quote key).append (mark.append ((thins_blanks blank).append thin))

theorem thins_integer (n : Int) : Thins (toString n).toList (toString n).toList := by
  apply thins_plain
  intro c member
  have numeric := isNumberChar_toString n c member
  refine ⟨?_, ne_of_passes numeric rfl⟩
  by_contra blank
  rw [Bool.not_eq_false] at blank
  rw [isNumberChar_of_isBlank blank] at numeric
  cases numeric

theorem thins_word {word : String} (known : word = "null" ∨ word = "true" ∨ word = "false") :
    Thins word.toList word.toList := by
  apply thins_plain
  rcases known with rfl | rfl | rfl <;> simp [isBlank]

theorem thins_prettyAt {v : Value} (plain : Plain v) (depth : Nat) :
    Thins (prettyAt depth v).toList (compact v).toList := by
  have arrayOpens : Thins ['['] ['['] := thins_mark (by decide)
  have arrayCloses : Thins [']'] [']'] := thins_mark (by decide)
  have tableOpens : Thins ['\x7b'] ['\x7b'] := thins_mark (by decide)
  have tableCloses : Thins ['\x7d'] ['\x7d'] := thins_mark (by decide)
  induction plain generalizing depth with
  | null => exact thins_word (.inl rfl)
  | boolean value =>
    cases value with
    | false => exact thins_word (.inr (.inr rfl))
    | true => exact thins_word (.inr (.inl rfl))
  | integer fits => exact thins_integer _
  | string value => exact thins_quote value
  | array each ih =>
    rw [toList_prettyAt_array, toList_compact_array]
    refine thins_brackets (thins_enclosed (isBlank_newLine _) (isBlank_newLine _) ?_) arrayOpens
      arrayCloses
    rw [List.forall₂_map_left_iff, List.forall₂_map_right_iff, List.forall₂_same]
    exact fun value member => ih value member (depth + 1)
  | table each ih =>
    have colon : ∀ c ∈ [' '], isBlank c = true := by simp [isBlank]
    rw [toList_prettyAt_table, toList_compact_table]
    refine thins_brackets (thins_enclosed (isBlank_newLine _) (isBlank_newLine _) ?_) tableOpens
      tableCloses
    rw [List.forall₂_map_left_iff, List.forall₂_map_right_iff, List.forall₂_same]
    exact fun member inside => thins_memberText colon member.1 (ih member inside (depth + 1))

def withoutBlanks (text : String) : String := String.ofList (dense .outside text.toList)

theorem withoutBlanks_pretty {v : Value} (plain : Plain v) :
    withoutBlanks (pretty v) = compact v := by
  have thin := thins_prettyAt plain 0 []
  simp only [List.append_nil, dense] at thin
  rw [withoutBlanks, pretty, thin, String.ofList_toList]

end DevicePlan.Json
