import DevicePlan.Decimal.Binary
import DevicePlan.Document.Value

namespace DevicePlan.Json

def hexDigit (n : Nat) : Char := Nat.digitChar n

def escapeChar (c : Char) : List Char :=
  match c with
  | '"' => ['\\', '"']
  | '\\' => ['\\', '\\']
  | '\x08' => ['\\', 'b']
  | '\x0c' => ['\\', 'f']
  | '\n' => ['\\', 'n']
  | '\r' => ['\\', 'r']
  | '\t' => ['\\', 't']
  | c =>
    if c.toNat < 0x20 then ['\\', 'u', '0', '0', hexDigit (c.toNat / 16), hexDigit (c.toNat % 16)]
    else [c]

def quote (text : String) : String :=
  String.ofList ('"' :: text.toList.flatMap escapeChar ++ ['"'])

def number (value : Float) : String :=
  if value.isFinite then Decimal.ofBits .short value.toBits else "null"

/-- A value without parts as JSON. What JSON lacks is written as the nearest that it has: an
infinite float as `null`, a moment as a string. -/
def scalar : Value → String
  | .null => "null"
  | .boolean value => if value then "true" else "false"
  | .integer value => toString value
  | .float value => number value
  | .string value => quote value
  | .moment value => quote value.text
  | .array _ | .tables _ | .table _ => ""

mutual

def compact : Value → String
  | .array elements | .tables elements =>
    "[" ++ ",".intercalate (compactElements elements) ++ "]"
  | .table members => "\x7b" ++ ",".intercalate (compactMembers members) ++ "\x7d"
  | value => scalar value

def compactElements : List Value → List String
  | [] => []
  | value :: rest => compact value :: compactElements rest

def compactMembers : List (String × Value) → List String
  | [] => []
  | (key, value) :: rest => (quote key ++ ":" ++ compact value) :: compactMembers rest

end

def newLine (depth : Nat) : String :=
  String.ofList ('\n' :: List.replicate (2 * depth) ' ')

def block (opening closing : String) (depth : Nat) (lines : List String) : String :=
  if lines.isEmpty then opening ++ closing
  else
    opening ++ newLine depth ++ ("," ++ newLine depth).intercalate lines ++
      newLine (depth - 1) ++ closing

mutual

def prettyAt (depth : Nat) : Value → String
  | .array elements | .tables elements =>
    block "[" "]" (depth + 1) (prettyElements (depth + 1) elements)
  | .table members => block "\x7b" "\x7d" (depth + 1) (prettyMembers (depth + 1) members)
  | value => scalar value

def prettyElements (depth : Nat) : List Value → List String
  | [] => []
  | value :: rest => prettyAt depth value :: prettyElements depth rest

def prettyMembers (depth : Nat) : List (String × Value) → List String
  | [] => []
  | (key, value) :: rest => (quote key ++ ": " ++ prettyAt depth value) :: prettyMembers depth rest

end

def pretty (value : Value) : String := prettyAt 0 value

end DevicePlan.Json
