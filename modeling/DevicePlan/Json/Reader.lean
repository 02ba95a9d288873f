import DevicePlan.Decimal.Binary
import DevicePlan.Document.Value

namespace DevicePlan.Json

def isBlank (c : Char) : Bool := c = ' ' || c = '\t' || c = '\n' || c = '\r'

def skipBlanks (cs : List Char) : List Char := cs.dropWhile isBlank

def hexValue? (c : Char) : Option Nat :=
  if '0' ≤ c ∧ c ≤ '9' then some (c.toNat - '0'.toNat)
  else if 'a' ≤ c ∧ c ≤ 'f' then some (c.toNat - 'a'.toNat + 10)
  else if 'A' ≤ c ∧ c ≤ 'F' then some (c.toNat - 'A'.toNat + 10)
  else none

def hexNumber? (cs : List Char) : Option Nat :=
  cs.foldlM (fun n c => (hexValue? c).map (16 * n + ·)) 0

def shortEscape? : Char → Option Char
  | '"' => some '"'
  | '\\' => some '\\'
  | '/' => some '/'
  | 'b' => some '\x08'
  | 'f' => some '\x0c'
  | 'n' => some '\n'
  | 'r' => some '\r'
  | 't' => some '\t'
  | _ => none

def push (c : Char) : Option (List Char × List Char) → Option (List Char × List Char) :=
  Option.map fun (text, rest) => (c :: text, rest)

/-- The inside of a string and what follows its closing quote. A character beyond 16 bits may be
written as two escapes; `high` is the first of them while the second is awaited. -/
def stringBody (high : Option Nat) : List Char → Option (List Char × List Char)
  | [] => none
  | '\\' :: 'u' :: a :: b :: c :: d :: rest =>
    match hexNumber? [a, b, c, d] with
    | none => none
    | some unit =>
      match high with
      | some first =>
        if 0xDC00 ≤ unit ∧ unit < 0xE000 then
          push (Char.ofNat (0x10000 + (first - 0xD800) * 0x400 + (unit - 0xDC00)))
            (stringBody none rest)
        else none
      | none =>
        if 0xD800 ≤ unit ∧ unit < 0xDC00 then stringBody (some unit) rest
        else if 0xDC00 ≤ unit ∧ unit < 0xE000 then none
        else push (Char.ofNat unit) (stringBody none rest)
  | '\\' :: c :: rest =>
    match high, shortEscape? c with
    | none, some c => push c (stringBody none rest)
    | _, _ => none
  | c :: rest =>
    if high.isSome then none
    else if c = '"' then some ([], rest)
    else if c = '\\' ∨ c.toNat < 0x20 then none
    else push c (stringBody none rest)

def maxWord : Nat := 0xffffffffffffffff

def takeDigits (n : Nat) : List Char → Nat × Nat
  | [] => (n, 0)
  | digit :: rest =>
    let next := 10 * n + (digit.toNat - '0'.toNat)
    if next ≤ maxWord then
      let (number, taken) := takeDigits next rest
      (number, taken + 1)
    else (n, 0)

def tenPow (n : Nat) : Float := Float.ofScientific 1 false n

def scale? (decimal : Decimal) : Option Float :=
  let float := (UInt64.ofNat decimal.digits).toFloat
  let places := decimal.exponent.natAbs
  if decimal.digits = 0 then some 0
  else if 0 ≤ decimal.exponent then
    if 308 < places then none
    else
      let product := float * tenPow places
      if product.isFinite then some product else none
  else if places ≤ 308 then some (float / tenPow places)
  else if places ≤ 616 then some (float / tenPow 308 / tenPow (places - 308))
  else some 0

def power? (cs : List Char) : Option Int :=
  let below := cs.head? == some '-'
  let digits := if below || cs.head? == some '+' then cs.tail else cs
  if digits.isEmpty || !digits.all Char.isDigit then none
  else
    let n : Int := Nat.ofDigitChars 10 digits 0
    some (if below then -n else n)

/-- A number token as a value: an integer if it is written as one and fits 64 bits, else a float. A
float is that of the first digits, as many as fit 64 bits, scaled to their place. -/
def number? (token : List Char) : Option Value := do
  let negative := token.head? == some '-'
  let digits := if negative then token.tail else token
  let whole := digits.takeWhile Char.isDigit
  let rest := digits.dropWhile Char.isDigit
  guard (!whole.isEmpty && (whole.head? != some '0' || whole.length == 1))
  let (number, taken) := takeDigits 0 whole
  if rest.isEmpty ∧ taken = whole.length then
    if ¬ negative then return .integer number
    if 0 < number ∧ number ≤ 0x8000000000000000 then return .integer (-(number : Int))
  let (fraction, rest) ← match rest with
    | '.' :: rest =>
      let fraction := rest.takeWhile Char.isDigit
      if fraction.isEmpty then none else some (fraction, rest.dropWhile Char.isDigit)
    | rest => some ([], rest)
  let power ← match rest with
    | [] => some 0
    | e :: rest => if e = 'e' ∨ e = 'E' then power? rest else none
  let (number, places) := takeDigits number fraction
  let float ← scale? ⟨number, (whole.length - taken : Nat) - places + power⟩
  return .float (if negative then -float else float)

def isNumberChar (c : Char) : Bool :=
  c.isDigit || c = '-' || c = '+' || c = '.' || c = 'e' || c = 'E'

def elements (item : List Char → Option (Value × List Char)) :
    Nat → List Char → Option (List Value × List Char)
  | 0, _ => none
  | fuel + 1, cs => do
    let (value, rest) ← item (skipBlanks cs)
    match skipBlanks rest with
    | ']' :: rest => some ([value], rest)
    | ',' :: rest =>
      let (values, rest) ← elements item fuel rest
      some (value :: values, rest)
    | _ => none

def members (item : List Char → Option (Value × List Char)) :
    Nat → List Char → Option (List (String × Value) × List Char)
  | 0, _ => none
  | fuel + 1, cs =>
    match skipBlanks cs with
    | '"' :: rest => do
      let (key, rest) ← stringBody none rest
      match skipBlanks rest with
      | ':' :: rest =>
        let (value, rest) ← item (skipBlanks rest)
        match skipBlanks rest with
        | '\x7d' :: rest => some ([(String.ofList key, value)], rest)
        | ',' :: rest =>
          let (entries, rest) ← members item fuel rest
          some ((String.ofList key, value) :: entries, rest)
        | _ => none
      | _ => none
    | _ => none

def value : Nat → List Char → Option (Value × List Char)
  | _, [] => none
  | _, '"' :: rest =>
    (stringBody none rest).map fun (text, rest) => (.string (String.ofList text), rest)
  | _, 'n' :: 'u' :: 'l' :: 'l' :: rest => some (.null, rest)
  | _, 't' :: 'r' :: 'u' :: 'e' :: rest => some (.boolean true, rest)
  | _, 'f' :: 'a' :: 'l' :: 's' :: 'e' :: rest => some (.boolean false, rest)
  | depth, '[' :: rest =>
    match depth, skipBlanks rest with
    | _, ']' :: rest => some (.array [], rest)
    | 0, _ => none
    | depth + 1, rest =>
      (elements (fun cs => value depth cs) rest.length rest).map fun (values, rest) =>
        (.array values, rest)
  | depth, '\x7b' :: rest =>
    match depth, skipBlanks rest with
    | _, '\x7d' :: rest => some (.table [], rest)
    | 0, _ => none
    | depth + 1, rest =>
      (members (fun cs => value depth cs) rest.length rest).map fun (entries, rest) =>
        (.table entries, rest)
  | _, cs => (number? (cs.takeWhile isNumberChar)).map fun v => (v, cs.dropWhile isNumberChar)

/-- The value of a JSON text, the members of each table in the order of the text. Only the length of
the text bounds how deep it is nested. -/
def read? (text : String) : Option Value :=
  let cs := text.toList
  match value cs.length (skipBlanks cs) with
  | some (value, rest) => if (skipBlanks rest).isEmpty then some value else none
  | none => none

end DevicePlan.Json
