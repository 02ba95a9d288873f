import DevicePlan.Toml.Line
import DevicePlan.Toml.Scalar

/-!
# Reading TOML

`Toml.read?` gives the members of the table that a TOML document denotes, in the order of the
document, and nothing for a text that is not TOML. It reads the text line by line (`lines?`) and
then builds the table (`assemble?`). Each reader takes the front of a list of characters and returns
what it read with the rest. Arrays and inline tables nest at most 79 deep, and a dotted key has at
most 79 parts.
-/

namespace DevicePlan.Toml

def isBlank (c : Char) : Bool := c = ' ' || c = '\t'

def skipBlanks (cs : List Char) : List Char := cs.dropWhile isBlank

def isTextChar (c : Char) : Bool := c = '\t' || (0x20 ≤ c.toNat && c.toNat ≠ 0x7f)

def isBareChar (c : Char) : Bool := c.isAlphanum || c = '_' || c = '-'

def skipLineEnd (cs : List Char) : Option (List Char) :=
  let afterComment := match skipBlanks cs with
    | '#' :: rest => rest.dropWhile isTextChar
    | rest => rest
  match afterComment with
  | [] => some []
  | '\n' :: rest => some rest
  | '\r' :: '\n' :: rest => some rest
  | _ => none

def skipFiller (inComment : Bool) : List Char → List Char
  | [] => []
  | '\n' :: rest => skipFiller false rest
  | '\r' :: '\n' :: rest => skipFiller false rest
  | c :: rest =>
    if inComment then if isTextChar c then skipFiller true rest else c :: rest
    else if isBlank c then skipFiller false rest
    else if c = '#' then skipFiller true rest
    else c :: rest

/-! ## Strings -/

def charOf? (n : Nat) : Option Char :=
  if h : n.isValidChar then some (Char.ofNatAux n h) else none

def numbered? (digits : List Char) : Option Char :=
  if digits.all (isDigitIn 16) then charOf? (ofDigits 16 digits) else none

def shortEscape? : Char → Option Char
  | 'b' => some '\x08'
  | 't' => some '\t'
  | 'n' => some '\n'
  | 'f' => some '\x0c'
  | 'r' => some '\r'
  | '"' => some '"'
  | '\\' => some '\\'
  | _ => none

def push (front : List Char) (read : Option (List Char × List Char)) :
    Option (List Char × List Char) :=
  read.map fun (text, rest) => (front ++ text, rest)

def pushChar (c : Option Char) (read : Option (List Char × List Char)) :
    Option (List Char × List Char) :=
  match c with
  | some c => push [c] read
  | none => none

def basicBody : List Char → Option (List Char × List Char)
  | [] => none
  | '\\' :: 'u' :: a :: b :: c :: d :: rest => pushChar (numbered? [a, b, c, d]) (basicBody rest)
  | '\\' :: 'U' :: a :: b :: c :: d :: e :: f :: g :: h :: rest =>
    pushChar (numbered? [a, b, c, d, e, f, g, h]) (basicBody rest)
  | '\\' :: c :: rest => pushChar (shortEscape? c) (basicBody rest)
  | c :: rest =>
    if c = '"' then some ([], rest)
    else if c ≠ '\\' ∧ isTextChar c then push [c] (basicBody rest)
    else none

def literalBody : List Char → Option (List Char × List Char)
  | [] => none
  | c :: rest =>
    if c = '\'' then some ([], rest)
    else if isTextChar c then push [c] (literalBody rest)
    else none

inductive Trimming where
  | off
  | line
  | on
deriving DecidableEq

/-- The inside of a string in triple double quotes, and what follows the closing quotes. Up to two
quotes before the closing ones belong to the text. -/
def longBasicBody : Trimming → List Char → Option (List Char × List Char)
  | _, [] => none
  | .line, c :: rest =>
    if isBlank c then longBasicBody .line rest
    else if c = '\n' then longBasicBody .on rest
    else match c, rest with
      | '\r', '\n' :: rest => longBasicBody .on rest
      | _, _ => none
  | .on, ' ' :: rest => longBasicBody .on rest
  | .on, '\t' :: rest => longBasicBody .on rest
  | .on, '\n' :: rest => longBasicBody .on rest
  | .on, '\r' :: '\n' :: rest => longBasicBody .on rest
  | _, '"' :: '"' :: '"' :: '"' :: '"' :: rest => some (['"', '"'], rest)
  | _, '"' :: '"' :: '"' :: '"' :: rest => some (['"'], rest)
  | _, '"' :: '"' :: '"' :: rest => some ([], rest)
  | _, '\r' :: '\n' :: rest => push ['\n'] (longBasicBody .off rest)
  | _, '\\' :: 'u' :: a :: b :: c :: d :: rest =>
    pushChar (numbered? [a, b, c, d]) (longBasicBody .off rest)
  | _, '\\' :: 'U' :: a :: b :: c :: d :: e :: f :: g :: h :: rest =>
    pushChar (numbered? [a, b, c, d, e, f, g, h]) (longBasicBody .off rest)
  | _, '\\' :: '\r' :: '\n' :: rest => longBasicBody .on rest
  | _, '\\' :: c :: rest =>
    if c = '\n' then longBasicBody .on rest
    else if isBlank c then longBasicBody .line rest
    else pushChar (shortEscape? c) (longBasicBody .off rest)
  | _, c :: rest =>
    if c ≠ '\\' ∧ (c = '\n' ∨ isTextChar c) then push [c] (longBasicBody .off rest) else none

def longLiteralBody : List Char → Option (List Char × List Char)
  | [] => none
  | '\'' :: '\'' :: '\'' :: '\'' :: '\'' :: rest => some (['\'', '\''], rest)
  | '\'' :: '\'' :: '\'' :: '\'' :: rest => some (['\''], rest)
  | '\'' :: '\'' :: '\'' :: rest => some ([], rest)
  | '\r' :: '\n' :: rest => push ['\n'] (longLiteralBody rest)
  | c :: rest => if c = '\n' ∨ isTextChar c then push [c] (longLiteralBody rest) else none

def skipFirstLineEnd : List Char → List Char
  | '\n' :: rest => rest
  | '\r' :: '\n' :: rest => rest
  | cs => cs

def quoted : List Char → Option (List Char × List Char)
  | '"' :: '"' :: '"' :: rest => longBasicBody .off (skipFirstLineEnd rest)
  | '"' :: rest => basicBody rest
  | '\'' :: '\'' :: '\'' :: rest => longLiteralBody (skipFirstLineEnd rest)
  | '\'' :: rest => literalBody rest
  | _ => none

def simpleKey : List Char → Option (String × List Char)
  | '"' :: rest => (basicBody rest).map fun (text, rest) => (String.ofList text, rest)
  | '\'' :: rest => (literalBody rest).map fun (text, rest) => (String.ofList text, rest)
  | cs =>
    if (cs.takeWhile isBareChar).isEmpty then none
    else some (String.ofList (cs.takeWhile isBareChar), cs.dropWhile isBareChar)

def key : Nat → List Char → Option ((List String × String) × List Char)
  | 0, _ => none
  | size + 1, cs => do
    let (part, rest) ← simpleKey (skipBlanks cs)
    match skipBlanks rest with
    | '.' :: rest =>
      let ((parents, last), rest) ← key size rest
      some ((part :: parents, last), rest)
    | rest => some (([], part), rest)

/-- The most parts of a key, and the most arrays and inline tables inside each other. -/
def maxDepth : Nat := 79

/-! ## Values -/

def elements (item : List Char → Option (Value × List Char)) :
    Nat → List Char → Option (List Value × List Char)
  | 0, _ => none
  | fuel + 1, cs =>
    match skipFiller false cs with
    | ']' :: rest => some ([], rest)
    | cs => do
      let (value, rest) ← item cs
      match skipFiller false rest with
      | ']' :: rest => some ([value], rest)
      | ',' :: rest =>
        let (values, rest) ← elements item fuel rest
        some (value :: values, rest)
      | _ => none

def inlineEntries (item : List Char → Option (Value × List Char)) (members : Members) :
    Nat → List Char → Option (Members × List Char)
  | 0, _ => none
  | fuel + 1, cs => do
    let ((parents, last), rest) ← key maxDepth cs
    match rest with
    | '=' :: rest =>
      let (value, rest) ← item (skipBlanks rest)
      let members ← addEntry value last parents members
      match skipBlanks rest with
      | '\x7d' :: rest => some (members, rest)
      | ',' :: rest => inlineEntries item members fuel rest
      | _ => none
    | _ => none

def value : Nat → List Char → Option (Value × List Char)
  | depth, '[' :: rest =>
    match depth with
    | 0 => none
    | depth + 1 =>
      (elements (fun cs => value depth cs) (rest.length + 1) rest).map fun (values, rest) =>
        (.array values, rest)
  | depth, '\x7b' :: rest =>
    match depth with
    | 0 => none
    | depth + 1 =>
      match skipBlanks rest with
      | '\x7d' :: rest => some (.table [], rest)
      | rest =>
        (inlineEntries (fun cs => value depth cs) [] rest.length rest).map fun (members, rest) =>
          (.table (memberValues members), rest)
  | _, cs =>
    match quoted cs with
    | some (text, rest) => some (.string (String.ofList text), rest)
    | none => scalar cs

/-! ## Documents -/

def line (cs : List Char) : Option (Line × List Char) :=
  match cs with
  | '[' :: '[' :: rest => do
    let ((parents, last), rest) ← key maxDepth rest
    match rest with
    | ']' :: ']' :: rest =>
      let rest ← skipLineEnd rest
      some (.arrayHeader parents last, rest)
    | _ => none
  | '[' :: rest => do
    let ((parents, last), rest) ← key maxDepth rest
    match rest with
    | ']' :: rest =>
      let rest ← skipLineEnd rest
      some (.header parents last, rest)
    | _ => none
  | cs => do
    let ((parents, last), rest) ← key maxDepth cs
    match rest with
    | '=' :: rest =>
      let (value, rest) ← value maxDepth (skipBlanks rest)
      let rest ← skipLineEnd rest
      some (.entry parents last value, rest)
    | _ => none

def linesWithin : Nat → List Char → Option (List Line)
  | _, [] => some []
  | 0, _ => none
  | fuel + 1, cs =>
    match skipLineEnd cs with
    | some rest => linesWithin fuel rest
    | none => do
      let (line, rest) ← line (skipBlanks cs)
      let lines ← linesWithin fuel rest
      some (line :: lines)

def skipMark : List Char → List Char
  | '\ufeff' :: rest => rest
  | cs => cs

def lines? (text : String) : Option (List Line) :=
  let cs := skipMark text.toList
  linesWithin cs.length cs

def read? (text : String) : Option (List (String × Value)) :=
  (lines? text).bind assemble?

end DevicePlan.Toml
