import DevicePlan.Text.Printed

namespace DevicePlan.Text

def hexadecimal (n : Nat) : List Char := Nat.toDigits 16 n

def quoteChar (c : Char) : List Char :=
  match c with
  | '\x00' => ['\\', '0']
  | '\t' => ['\\', 't']
  | '\r' => ['\\', 'r']
  | '\n' => ['\\', 'n']
  | '"' => ['\\', '"']
  | '\\' => ['\\', '\\']
  | c =>
    if isPrinted c then [c]
    else ['\\', 'u', '\x7b'] ++ hexadecimal c.toNat ++ ['\x7d']

def quote (text : String) : String :=
  String.ofList ('"' :: text.toList.flatMap quoteChar ++ ['"'])

def ticked (text : String) : String := "`" ++ text ++ "`"

end DevicePlan.Text
