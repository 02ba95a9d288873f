import DevicePlan.Toml.Line

namespace DevicePlan.Toml

def isControl (c : Char) : Bool := c ≠ '\t' && c ≠ '\n' && (c.toNat < 0x20 || c.toNat = 0x7f)

def hasTriple (quote : Char) (cs : List Char) : Bool :=
  match cs with
  | a :: b :: c :: rest =>
    (a = quote && b = quote && c = quote) || hasTriple quote (b :: c :: rest)
  | _ => false

def escapeChar (c : Char) : List Char :=
  match c with
  | '\x08' => ['\\', 'b']
  | '\t' => ['\\', 't']
  | '\n' => ['\\', 'n']
  | '\x0c' => ['\\', 'f']
  | '\r' => ['\\', 'r']
  | '"' => ['\\', '"']
  | '\\' => ['\\', '\\']
  | c => ['\\', 'u', '0', '0', (Nat.digitChar (c.toNat / 16)).toUpper,
    (Nat.digitChar (c.toNat % 16)).toUpper]

def needsEscape (c : Char) : Bool := c = '"' || c = '\\' || c.toNat < 0x20 || c.toNat = 0x7f

def escapeBasic (cs : List Char) : List Char :=
  cs.flatMap fun c => if needsEscape c then escapeChar c else [c]

/-- A text for triple double quotes. Line ends stand as they are, and so do up to two quotes in a
row; `quotes` is how many have just been written. -/
def escapeLongBasic (quotes : Nat) : List Char → List Char
  | [] => []
  | '"' :: rest =>
    if quotes < 2 then '"' :: escapeLongBasic (quotes + 1) rest
    else '\\' :: '"' :: escapeLongBasic 0 rest
  | c :: rest =>
    (if c ≠ '\n' ∧ needsEscape c then escapeChar c else [c]) ++ escapeLongBasic 0 rest

inductive Quotes where
  | basic
  | literal
  | longBasic
  | longLiteral
deriving DecidableEq

def Quotes.ofText (cs : List Char) : Quotes :=
  let newline := cs.contains '\n'
  let control := cs.any isControl
  if !cs.contains '"' && !cs.contains '\\' && !newline && !control then basic
  else if !cs.contains '\'' && !newline && !control then literal
  else if !cs.contains '\\' && !control && !hasTriple '"' cs then longBasic
  else if !control && !hasTriple '\'' cs then longLiteral
  else if newline then longBasic
  else basic

def Quotes.ofKey (cs : List Char) : Quotes :=
  let control := cs.any fun c => c = '\n' || isControl c
  if !cs.contains '"' && !cs.contains '\\' && !control then basic
  else if !cs.contains '\'' && !control then literal
  else basic

/-- A line end that the reader drops, in front of a text with one. -/
def firstLineEnd (cs : List Char) : List Char := if cs.contains '\n' then ['\n'] else []

def Quotes.write (quotes : Quotes) (cs : List Char) : List Char :=
  match quotes with
  | basic => '"' :: (escapeBasic cs ++ ['"'])
  | literal => '\'' :: (cs ++ ['\''])
  | longBasic =>
    ['"', '"', '"'] ++ firstLineEnd cs ++ escapeLongBasic 0 cs ++ ['"', '"', '"']
  | longLiteral => ['\'', '\'', '\''] ++ firstLineEnd cs ++ cs ++ ['\'', '\'', '\'']

def writeString (text : String) : List Char :=
  (Quotes.ofText text.toList).write text.toList

def isBareKey (cs : List Char) : Bool :=
  !cs.isEmpty && cs.all fun c => c.isAlphanum || c = '_' || c = '-'

def writeKey (key : String) : List Char :=
  if isBareKey key.toList then key.toList else (Quotes.ofKey key.toList).write key.toList

inductive Scalar where
  | string (value : String)
  | integer (value : Int64)
  | boolean (value : Bool)
deriving DecidableEq

namespace Scalar

def value : Scalar → Value
  | string value => .string value
  | integer value => .integer value.toInt
  | boolean value => .boolean value

def write : Scalar → List Char
  | string value => writeString value
  | integer value => (toString value.toInt).toList
  | boolean value => (toString value).toList

end Scalar

structure Section where
  parents : List String
  name : String
  entries : List (String × Scalar)
deriving DecidableEq

namespace Section

def lines (part : Section) : List Line :=
  .header part.parents part.name ::
    part.entries.map fun (key, scalar) => .entry [] key scalar.value

def writeEntry (entry : String × Scalar) : List Char :=
  writeKey entry.1 ++ " = ".toList ++ entry.2.write ++ ['\n']

def write (part : Section) : List Char :=
  '[' :: (part.parents.flatMap (fun key => writeKey key ++ ['.']) ++ writeKey part.name) ++
    "]\n".toList ++ part.entries.flatMap writeEntry

end Section

def write (parts : List Section) : String :=
  String.ofList (['\n'].intercalate (parts.map Section.write))

end DevicePlan.Toml
