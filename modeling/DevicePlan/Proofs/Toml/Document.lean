import DevicePlan.Proofs.Toml.Scalar

namespace DevicePlan.Toml

theorem isBlank_of_passes {test : Char → Bool} {c : Char} (passes : test c = true)
    (space : test ' ' = false) (tab : test '\t' = false) : isBlank c = false := by
  have noSpace : c ≠ ' ' := ne_of_passes passes space
  have noTab : c ≠ '\t' := ne_of_passes passes tab
  simp [isBlank, noSpace, noTab]

theorem skipBlanks_cons {c : Char} (noBlank : isBlank c = false) (rest : List Char) :
    skipBlanks (c :: rest) = c :: rest := by
  rw [skipBlanks, List.dropWhile_cons_of_neg (by simp [noBlank])]

def isKeyStart (c : Char) : Bool := c = '"' || c = '\'' || isBareChar c

theorem ofKey_cases (cs : List Char) : Quotes.ofKey cs = .basic ∨ Quotes.ofKey cs = .literal := by
  simp only [Quotes.ofKey]
  split
  · exact .inl rfl
  · split
    · exact .inr rfl
    · exact .inl rfl

theorem isBareKey_iff {cs : List Char} :
    isBareKey cs = true ↔ cs ≠ [] ∧ ∀ c ∈ cs, isBareChar c = true := by
  rw [isBareKey, Bool.and_eq_true, Bool.not_eq_true', List.isEmpty_eq_false_iff,
    List.all_eq_true]
  rfl

theorem writeKey_eq_cons (name : String) :
    ∃ first more, writeKey name = first :: more ∧ isKeyStart first = true := by
  unfold writeKey
  split
  · rename_i bare
    obtain ⟨nonempty, all⟩ := isBareKey_iff.mp bare
    obtain ⟨first, more, spelled⟩ := List.exists_cons_of_ne_nil nonempty
    have start := all first (by simp [spelled])
    exact ⟨first, more, spelled, by simp [isKeyStart, start]⟩
  · rcases ofKey_cases name.toList with quotes | quotes
    · exact ⟨'"', _, by rw [quotes]; rfl, rfl⟩
    · exact ⟨'\'', _, by rw [quotes]; rfl, rfl⟩

theorem skipBlanks_writeKey (name : String) (rest : List Char) :
    skipBlanks (writeKey name ++ rest) = writeKey name ++ rest := by
  obtain ⟨first, more, written, start⟩ := writeKey_eq_cons name
  rw [written, List.cons_append, skipBlanks_cons (isBlank_of_passes start rfl rfl)]

theorem simpleKey_writeKey (name : String) {rest : List Char}
    (ends : ∀ c ∈ rest.head?, isBareChar c = false) :
    simpleKey (writeKey name ++ rest) = some (name, rest) := by
  unfold writeKey
  split
  · rename_i bare
    obtain ⟨nonempty, all⟩ := isBareKey_iff.mp bare
    have noQuote {quote : Char} (notBare : isBareChar quote = false) :
        ∀ more, name.toList ++ rest ≠ quote :: more := by
      obtain ⟨first, others, spelled⟩ := List.exists_cons_of_ne_nil nonempty
      intro more same
      rw [spelled, List.cons_append] at same
      exact ne_of_passes (all first (by simp [spelled])) notBare (List.cons.inj same).1
    rw [simpleKey, takeWhile_run all ends, dropWhile_run all ends]
    · simp [nonempty]
    · exact noQuote rfl
    · exact noQuote rfl
  · rcases ofKey_cases name.toList with quotes | quotes
    · rw [quotes]
      simp only [Quotes.write, List.cons_append, List.append_assoc, List.nil_append, simpleKey,
        basicBody_escapeBasic, Option.map_some, String.ofList_toList]
    · have fits := Quotes.fits_ofKey name.toList
      rw [quotes] at fits ⊢
      simp only [Quotes.write, List.cons_append, List.append_assoc, List.nil_append, simpleKey,
        literalBody_append fits.1 fits.2, Option.map_some, String.ofList_toList]

def writePath (parents : List String) (name : String) : List Char :=
  parents.flatMap (fun part => writeKey part ++ ['.']) ++ writeKey name

theorem writePath_nil (name : String) : writePath [] name = writeKey name := rfl

theorem writePath_cons (part : String) (parents : List String) (name : String) :
    writePath (part :: parents) name = writeKey part ++ '.' :: writePath parents name := by
  simp [writePath]

theorem writePath_eq_cons (parents : List String) (name : String) :
    ∃ first more, writePath parents name = first :: more ∧ isKeyStart first = true := by
  cases parents with
  | nil => exact writeKey_eq_cons name
  | cons part parents =>
    obtain ⟨first, more, written, start⟩ := writeKey_eq_cons part
    exact ⟨first, more ++ '.' :: writePath parents name,
      by rw [writePath_cons, written, List.cons_append], start⟩

theorem key_writePath {rest : List Char} (ends : ∀ c ∈ rest.head?, isBareChar c = false)
    (last : ∀ more, skipBlanks rest ≠ '.' :: more) (name : String) {size : Nat}
    (parents : List String) (fits : parents.length < size) :
    key size (writePath parents name ++ rest) = some ((parents, name), skipBlanks rest) := by
  induction parents generalizing size with
  | nil =>
    cases size with
    | zero => cases fits
    | succ size =>
      rw [writePath_nil, key, skipBlanks_writeKey, simpleKey_writeKey name ends]
      simp only [Option.bind_eq_bind, Option.bind_some]
  | cons part parents ih =>
    cases size with
    | zero => cases fits
    | succ size =>
      have noBlank : isBlank '.' = false := rfl
      have dot : ∀ rest : List Char, ∀ c ∈ ('.' :: rest).head?, isBareChar c = false := by
        rintro rest c ⟨⟩
        rfl
      rw [writePath_cons, List.append_assoc, List.cons_append, key, skipBlanks_writeKey,
        simpleKey_writeKey part (dot _)]
      simp only [Option.bind_eq_bind, Option.bind_some, skipBlanks_cons noBlank]
      rw [ih (Nat.lt_of_succ_lt_succ fits)]
      rfl

theorem Quotes.write_eq_cons (quotes : Quotes) (cs : List Char) :
    ∃ first more, quotes.write cs = first :: more ∧ (first = '"' ∨ first = '\'') := by
  cases quotes with
  | basic => exact ⟨'"', _, rfl, .inl rfl⟩
  | literal => exact ⟨'\'', _, rfl, .inr rfl⟩
  | longBasic => exact ⟨'"', _, rfl, .inl rfl⟩
  | longLiteral => exact ⟨'\'', _, rfl, .inr rfl⟩

def isScalarStart (c : Char) : Bool := c = '"' || c = '\'' || c = '-' || c.isAlphanum

theorem Scalar.write_eq_cons (scalar : Scalar) :
    ∃ first more, scalar.write = first :: more ∧ isScalarStart first = true := by
  cases scalar with
  | string text =>
    obtain ⟨first, more, written, rfl | rfl⟩ :=
      (Quotes.ofText text.toList).write_eq_cons text.toList
    · exact ⟨_, more, written, rfl⟩
    · exact ⟨_, more, written, rfl⟩
  | integer n =>
    obtain ⟨first, digits, written, start, -⟩ := toString_eq_cons n.toInt
    rw [isIntegerStart, Bool.or_eq_true, decide_eq_true_eq] at start
    rcases start with rfl | digit
    · exact ⟨_, digits, written, rfl⟩
    · exact ⟨first, digits, written, by simp [isScalarStart, Char.isAlphanum, digit]⟩
  | boolean b =>
    cases b with
    | false => exact ⟨'f', _, rfl, rfl⟩
    | true => exact ⟨'t', _, rfl, rfl⟩

theorem skipBlanks_write (scalar : Scalar) (rest : List Char) :
    skipBlanks (scalar.write ++ rest) = scalar.write ++ rest := by
  obtain ⟨first, more, written, start⟩ := scalar.write_eq_cons
  rw [written, List.cons_append, skipBlanks_cons (isBlank_of_passes start rfl rfl)]

theorem quoted_eq_none {cs : List Char} (noDouble : cs.head? ≠ some '"')
    (noSingle : cs.head? ≠ some '\'') : quoted cs = none := by
  unfold quoted
  split <;> simp_all

theorem value_write (scalar : Scalar) (depth : Nat) (rest : List Char) :
    value depth (scalar.write ++ '\n' :: rest) = some (scalar.value, '\n' :: rest) := by
  obtain ⟨first, more, written, start⟩ := scalar.write_eq_cons
  have noBracket {bracket : Char} (notStart : isScalarStart bracket = false) :
      ∀ more, scalar.write ++ '\n' :: rest ≠ bracket :: more := by
    intro more same
    rw [written, List.cons_append] at same
    exact ne_of_passes start notStart (List.cons.inj same).1
  rw [value]
  · cases scalar with
    | string text =>
      simp only [Scalar.write, writeString]
      rw [quoted_write (Quotes.fits_ofText text.toList) (by simp) (by simp)]
      simp [Scalar.value]
    | integer n =>
      obtain ⟨first, digits, written, start, -⟩ := toString_eq_cons n.toInt
      have unquoted : quoted ((Scalar.integer n).write ++ '\n' :: rest) = none := by
        have noDouble : first ≠ '"' := ne_of_passes start rfl
        have noSingle : first ≠ '\'' := ne_of_passes start rfl
        rw [Scalar.write, written]
        apply quoted_eq_none <;> simp [noDouble, noSingle]
      simp only [unquoted]
      exact scalar_integer n rest
    | boolean b =>
      have unquoted : quoted ((Scalar.boolean b).write ++ '\n' :: rest) = none := by
        cases b with
        | false => rfl
        | true => rfl
      simp only [unquoted]
      exact scalar_boolean b rest
  · exact noBracket rfl
  · exact noBracket rfl

theorem line_header (parents : List String) (shallow : parents.length < maxDepth) (name : String)
    (rest : List Char) :
    line ('[' :: (writePath parents name ++ ']' :: '\n' :: rest)) =
      some (.header parents name, rest) := by
  obtain ⟨first, more, written, start⟩ := writePath_eq_cons parents name
  have single : ∀ others, writePath parents name ++ ']' :: '\n' :: rest ≠ '[' :: others := by
    intro others same
    rw [written, List.cons_append] at same
    exact ne_of_passes start rfl (List.cons.inj same).1
  have noBlank : isBlank ']' = false := rfl
  have ends : ∀ c ∈ (']' :: '\n' :: rest).head?, isBareChar c = false := by
    rintro c ⟨⟩
    rfl
  have path := key_writePath ends (by simp [skipBlanks_cons noBlank]) name parents shallow
  rw [line, path]
  · simp only [Option.bind_eq_bind, Option.bind_some, skipBlanks_cons noBlank]
    rfl
  · exact single

theorem line_entry (name : String) (scalar : Scalar) (rest : List Char) :
    line (writeKey name ++ ' ' :: '=' :: ' ' :: (scalar.write ++ '\n' :: rest)) =
      some (.entry [] name scalar.value, rest) := by
  obtain ⟨first, more, written, start⟩ := writeKey_eq_cons name
  have noBracket : first ≠ '[' := ne_of_passes start rfl
  have ends : ∀ c ∈ (' ' :: '=' :: ' ' :: (scalar.write ++ '\n' :: rest)).head?,
      isBareChar c = false := by
    rintro c ⟨⟩
    rfl
  have noBlank : isBlank '=' = false := rfl
  have space : ∀ cs, skipBlanks (' ' :: cs) = skipBlanks cs := fun cs => rfl
  have shallow : ([] : List String).length < maxDepth := by decide
  have path := key_writePath ends (by simp [space, skipBlanks_cons noBlank]) name [] shallow
  rw [writePath_nil] at path
  rw [line, path]
  · simp only [Option.bind_eq_bind, Option.bind_some, space, skipBlanks_cons noBlank]
    rw [skipBlanks_write, value_write]
    rfl
  · intro others
    simp [written, noBracket]
  · intro others
    simp [written, noBracket]

def isLineStart (c : Char) : Bool := c = '[' || isKeyStart c

theorem skipLineEnd_eq_none {c : Char} (start : isLineStart c = true) (rest : List Char) :
    skipLineEnd (c :: rest) = none := by
  have noComment : c ≠ '#' := ne_of_passes start rfl
  have noNewline : c ≠ '\n' := ne_of_passes start rfl
  have noReturn : c ≠ '\r' := ne_of_passes start rfl
  have noBlank : isBlank c = false := isBlank_of_passes start rfl rfl
  simp [skipLineEnd, skipBlanks_cons noBlank, noComment, noNewline, noReturn]

/-- With enough fuel the text reads as the lines. -/
def Reads (cs : List Char) (lines : List Line) : Prop :=
  ∀ fuel, cs.length ≤ fuel → linesWithin fuel cs = some lines

theorem reads_nil : Reads [] [] := by
  intro fuel _
  rw [linesWithin]

theorem reads_emptyLine {rest : List Char} {lines : List Line} (later : Reads rest lines) :
    Reads ('\n' :: rest) lines := by
  intro fuel enough
  cases fuel with
  | zero => cases enough
  | succ fuel =>
    rw [linesWithin]
    · exact later fuel (Nat.le_of_succ_le_succ enough)
    · simp

theorem reads_line {first : Char} {more rest : List Char} {next : Line} {lines : List Line}
    (start : isLineStart first = true) (read : line (first :: more) = some (next, rest))
    (shorter : rest.length ≤ more.length) (later : Reads rest lines) :
    Reads (first :: more) (next :: lines) := by
  intro fuel enough
  cases fuel with
  | zero => cases enough
  | succ fuel =>
    have after := later fuel (Nat.le_trans shorter (Nat.le_of_succ_le_succ enough))
    rw [linesWithin, skipLineEnd_eq_none start]
    · simp [skipBlanks_cons (isBlank_of_passes start rfl rfl), read, after]
    · simp

theorem reads_entry {rest : List Char} {lines : List Line} (later : Reads rest lines)
    (name : String) (scalar : Scalar) :
    Reads (Section.writeEntry (name, scalar) ++ rest)
      (.entry [] name scalar.value :: lines) := by
  obtain ⟨first, more, written, start⟩ := writeKey_eq_cons name
  have read := line_entry name scalar rest
  have spelled : Section.writeEntry (name, scalar) ++ rest =
      writeKey name ++ ' ' :: '=' :: ' ' :: (scalar.write ++ '\n' :: rest) := by
    simp [Section.writeEntry]
  rw [written] at spelled read
  rw [spelled]
  apply reads_line
  · simp [isLineStart, start]
  · exact read
  · simp
    omega
  · exact later

theorem reads_entries {rest : List Char} {lines : List Line} (later : Reads rest lines)
    (entries : List (String × Scalar)) :
    Reads (entries.flatMap Section.writeEntry ++ rest)
      (entries.map (fun (key, scalar) => .entry [] key scalar.value) ++ lines) := by
  induction entries with
  | nil => exact later
  | cons entry entries ih =>
    rw [List.flatMap_cons, List.append_assoc]
    exact reads_entry ih entry.1 entry.2

theorem reads_section {rest : List Char} {lines : List Line} (later : Reads rest lines)
    (part : Section) (shallow : part.parents.length < maxDepth) :
    Reads (part.write ++ rest) (part.lines ++ lines) := by
  have after := reads_entries later part.entries
  have spelled : part.write ++ rest = '[' :: (writePath part.parents part.name ++
      ']' :: '\n' :: (part.entries.flatMap Section.writeEntry ++ rest)) := by
    simp [Section.write, writePath]
  rw [spelled]
  apply reads_line
  · rfl
  · exact line_header part.parents shallow part.name _
  · simp
    omega
  · exact after

theorem reads_write {parts : List Section}
    (shallow : ∀ part ∈ parts, part.parents.length < maxDepth) :
    Reads (['\n'].intercalate (parts.map Section.write)) (parts.flatMap Section.lines) := by
  induction parts with
  | nil => exact reads_nil
  | cons part parts ih =>
    have later := ih fun other member => shallow other (List.mem_cons_of_mem part member)
    have here := shallow part List.mem_cons_self
    cases parts with
    | nil => 
      have last := reads_section reads_nil part here
      simpa using last
    | cons next parts =>
      rw [List.map_cons, List.map_cons, List.intercalate_cons_cons, List.flatMap_cons,
        List.append_assoc]
      exact reads_section (reads_emptyLine later) part here

theorem lines?_write {parts : List Section}
    (shallow : ∀ part ∈ parts, part.parents.length < maxDepth) :
    lines? (write parts) = some (parts.flatMap Section.lines) := by
  have noMark : skipMark (['\n'].intercalate (parts.map Section.write)) =
      ['\n'].intercalate (parts.map Section.write) := by
    cases parts with
    | nil => rfl
    | cons part parts =>
      cases parts with
      | nil => simp [Section.write, skipMark]
      | cons next parts =>
        rw [List.map_cons, List.map_cons, List.intercalate_cons_cons]
        rfl
  rw [lines?, write, String.toList_ofList, noMark]
  exact reads_write shallow _ (Nat.le_refl _)

end DevicePlan.Toml
