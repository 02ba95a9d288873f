import DevicePlan.Decimal.Binary
import DevicePlan.Document.Value

namespace DevicePlan.Toml

def isTokenChar (c : Char) : Bool :=
  c.isAlphanum || c = '+' || c = '-' || c = '_' || c = '.' || c = ':'

def token (cs : List Char) : List Char × List Char :=
  (cs.takeWhile isTokenChar, cs.dropWhile isTokenChar)

def digitGroups? (isDigit : Char → Bool) : List Char → Option (List Char)
  | [] => none
  | [c] => if isDigit c then some [c] else none
  | c :: '_' :: rest => if isDigit c then (digitGroups? isDigit rest).map (c :: ·) else none
  | c :: rest => if isDigit c then (digitGroups? isDigit rest).map (c :: ·) else none

def digitValue (c : Char) : Nat :=
  if c.isDigit then c.toNat - '0'.toNat else c.toLower.toNat - 'a'.toNat + 10

def isDigitIn (base : Nat) (c : Char) : Bool :=
  c.isAlphanum && digitValue c < base

def ofDigits (base : Nat) (digits : List Char) : Nat :=
  digits.foldl (fun n c => base * n + digitValue c) 0

def isPlain : List Char → Bool
  | '0' :: _ :: _ => false
  | _ => true

def signed : List Char → Bool × List Char
  | '-' :: rest => (true, rest)
  | '+' :: rest => (false, rest)
  | cs => (false, cs)

def inRange? (negative : Bool) (n : Nat) : Option Int :=
  if negative then if n ≤ 0x8000000000000000 then some (-(n : Int)) else none
  else if n < 0x8000000000000000 then some n else none

def decimalDigits? (cs : List Char) : Option (List Char) :=
  (digitGroups? Char.isDigit cs).filter isPlain

def basedInteger? (base : Nat) (cs : List Char) : Option Int := do
  let digits ← digitGroups? (isDigitIn base) cs
  inRange? false (ofDigits base digits)

def integer? : List Char → Option Int
  | '0' :: 'x' :: rest => basedInteger? 16 rest
  | '0' :: 'o' :: rest => basedInteger? 8 rest
  | '0' :: 'b' :: rest => basedInteger? 2 rest
  | cs => do
    let (negative, rest) := signed cs
    let digits ← decimalDigits? rest
    inRange? negative (ofDigits 10 digits)

def isDigitOrGap (c : Char) : Bool := c.isDigit || c = '_'

def fraction? : List Char → Option (List Char × List Char)
  | '.' :: rest =>
    (digitGroups? Char.isDigit (rest.takeWhile isDigitOrGap)).map (·, rest.dropWhile isDigitOrGap)
  | rest => some ([], rest)

def power? : List Char → Option Int
  | [] => some 0
  | mark :: rest =>
    if mark = 'e' ∨ mark = 'E' then do
      let (negative, rest) := signed rest
      let digits ← digitGroups? Char.isDigit rest
      let n : Int := ofDigits 10 digits
      some (if negative then -n else n)
    else none

/-- A float. One above the range of floats is refused; one below it is the negative infinity. -/
def float? (cs : List Char) : Option Float := do
  let (negative, rest) := signed cs
  match rest with
  | ['i', 'n', 'f'] => some (if negative then -(1 / 0) else 1 / 0)
  | ['n', 'a', 'n'] => some (0 / 0)
  | rest =>
    let whole ← decimalDigits? (rest.takeWhile isDigitOrGap)
    let tail := rest.dropWhile isDigitOrGap
    guard (!tail.isEmpty)
    let (places, tail) ← fraction? tail
    let power ← power? tail
    let decimal : Decimal := ⟨ofDigits 10 (whole ++ places), power - places.length⟩
    let value := decimal.toFloat negative
    if value.isInf && !negative then none else some value

def digits? (cs : List Char) : Option Nat :=
  if cs.all Char.isDigit then some (ofDigits 10 cs) else none

def date? : List Char → Option (Moment.Date × List Char)
  | y₁ :: y₂ :: y₃ :: y₄ :: '-' :: m₁ :: m₂ :: '-' :: d₁ :: d₂ :: rest => do
    let year ← digits? [y₁, y₂, y₃, y₄]
    let month ← digits? [m₁, m₂]
    let day ← digits? [d₁, d₂]
    let date : Moment.Date := ⟨year, month, day⟩
    if date.isValid then some (date, rest) else none
  | _ => none

/-- The billionths that the digits after a point make; digits beyond the ninth are dropped. -/
def billionths (digits : List Char) : Nat :=
  ofDigits 10 ((digits ++ List.replicate 9 '0').take 9)

def time? : List Char → Option (Moment.Time × List Char)
  | h₁ :: h₂ :: ':' :: m₁ :: m₂ :: ':' :: s₁ :: s₂ :: rest => do
    let hour ← digits? [h₁, h₂]
    let minute ← digits? [m₁, m₂]
    let second ← digits? [s₁, s₂]
    let (nanosecond, rest) ← match rest with
      | '.' :: rest =>
        let places := rest.takeWhile Char.isDigit
        if places.isEmpty then none else some (billionths places, rest.dropWhile Char.isDigit)
      | rest => some (0, rest)
    let time : Moment.Time := ⟨hour, minute, second, nanosecond⟩
    if time.isValid then some (time, rest) else none
  | _ => none

def offset? : List Char → Option (Option Moment.Offset)
  | [] => some none
  | ['Z'] | ['z'] => some (some .universal)
  | [sign, h₁, h₂, ':', m₁, m₂] => do
    let hours ← digits? [h₁, h₂]
    let minutes ← digits? [m₁, m₂]
    guard (hours ≤ 23 && minutes ≤ 59)
    let ahead : Int := 60 * hours + minutes
    if sign = '+' then some (some (.minutes ahead))
    else if sign = '-' then some (some (.minutes (-ahead)))
    else none
  | _ => none

def dateTime? (date : Moment.Date) (cs : List Char) : Option Moment := do
  let (time, rest) ← time? cs
  let offset ← offset? rest
  some (.dateTime date time offset)

def moment? (cs : List Char) : Option Moment :=
  match date? cs with
  | some (date, []) => some (.date date)
  | some (date, delimiter :: rest) =>
    if delimiter = 'T' ∨ delimiter = 't' then dateTime? date rest else none
  | none =>
    match time? cs with
    | some (time, []) => some (.time time)
    | _ => none

def scalar? (cs : List Char) : Option Value :=
  match cs with
  | ['t', 'r', 'u', 'e'] => some (.boolean true)
  | ['f', 'a', 'l', 's', 'e'] => some (.boolean false)
  | cs =>
    (integer? cs).map .integer <|> (float? cs).map .float <|> (moment? cs).map .moment

def scalar (cs : List Char) : Option (Value × List Char) :=
  let (first, rest) := token cs
  match date? first, rest with
  | some (date, []), ' ' :: digit :: more =>
    if digit.isDigit then
      let (second, rest) := token (digit :: more)
      (dateTime? date second).map fun moment => (.moment moment, rest)
    else some (.moment (.date date), rest)
  | _, _ => (scalar? first).map (·, rest)

end DevicePlan.Toml
