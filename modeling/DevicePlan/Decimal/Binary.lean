/-!
# Decimals and binary floating point

A finite positive float is `mantissa * 2 ^ exponent`. `Decimal.shortest` finds the decimal with the
fewest digits that reads back as it, and of those the nearest; where two are as near, a `Tie` says
which. `Decimal.ofBits` writes it in a `Style`, and `Decimal.toFloat` reads a decimal. All of the
search is in exact natural arithmetic.
-/

namespace DevicePlan

structure Decimal where
  digits : Nat
  exponent : Int
deriving DecidableEq

namespace Decimal

structure Binary where
  mantissa : Nat
  exponent : Int
  narrowBelow : Bool
deriving DecidableEq

def Binary.ofBits (bits : Nat) : Binary :=
  let field : Nat := bits / 0x10000000000000 % 0x800
  let fraction : Nat := bits % 0x10000000000000
  if field = 0 then ⟨fraction, -1074, false⟩
  else ⟨0x10000000000000 + fraction, (field : Int) - 1075, fraction = 0 && 1 < field⟩

def twoPow (n : Int) : Nat := Nat.pow 2 n.toNat

def tenPow (n : Int) : Nat := Nat.pow 10 n.toNat

/-- Whether the decimal is among the reals that round to the float, the ends of their interval
included iff the mantissa is even. -/
def roundsTo (value : Binary) (decimal : Decimal) : Bool :=
  let quarter := value.exponent - 2
  let scale (quarters : Nat) : Nat := quarters * twoPow quarter * tenPow (-decimal.exponent)
  let point := decimal.digits * tenPow decimal.exponent * twoPow (-quarter)
  let low := scale (4 * value.mantissa - if value.narrowBelow then 1 else 2)
  let high := scale (4 * value.mantissa + 2)
  if value.mantissa % 2 = 0 then low ≤ point && point ≤ high else low < point && point < high

inductive Tie where
  | toEven
  | up
deriving DecidableEq

/-- The neighbour of the float on the grid of multiples of `10 ^ exponent` that rounds to it, the
nearer one if both do. -/
def onGrid? (tie : Tie) (value : Binary) (exponent : Int) : Option Decimal :=
  let numerator := value.mantissa * twoPow value.exponent * tenPow (-exponent)
  let denominator := twoPow (-value.exponent) * tenPow exponent
  let below : Decimal := ⟨numerator / denominator, exponent⟩
  let above : Decimal := ⟨numerator / denominator + 1, exponent⟩
  match roundsTo value below, roundsTo value above with
  | true, true =>
    let twice := 2 * (numerator % denominator)
    if twice < denominator then some below
    else if twice = denominator ∧ tie = .toEven ∧ below.digits % 2 = 0 then some below
    else some above
  | true, false => some below
  | false, true => some above
  | false, false => none

def shortest (tie : Tie) (value : Binary) : Decimal :=
  let nearest := (List.range 640).findSome? fun (i : Nat) => onGrid? tie value (310 - (i : Int))
  nearest.getD ⟨value.mantissa, 0⟩

def positional (decimal : Decimal) : String :=
  if 0 ≤ decimal.exponent then
    toString (decimal.digits * tenPow decimal.exponent) ++ ".0"
  else
    let places := (-decimal.exponent).toNat
    let digits := (toString decimal.digits).toList
    let padded := List.replicate (places + 1 - digits.length) '0' ++ digits
    let whole := padded.length - places
    String.ofList (padded.take whole ++ '.' :: padded.drop whole)

def leadingPower (decimal : Decimal) : Int :=
  decimal.exponent + (toString decimal.digits).length - 1

def scientific (decimal : Decimal) : String :=
  let power := decimal.leadingPower
  let digits := match (toString decimal.digits).toList with
    | first :: second :: rest => first :: '.' :: second :: rest
    | digits => digits
  String.ofList digits ++ "e" ++ (if power < 0 then "-" else "+") ++ toString power.natAbs

structure Style where
  tie : Tie
  positionalPowers : Option (Int × Int)
deriving DecidableEq

namespace Style

def full : Style := ⟨.up, none⟩

def short : Style := ⟨.toEven, some (-5, 15)⟩

end Style

def write (style : Style) (decimal : Decimal) : String :=
  match style.positionalPowers with
  | none => decimal.positional
  | some (least, greatest) =>
    if least ≤ decimal.leadingPower ∧ decimal.leadingPower ≤ greatest then decimal.positional
    else decimal.scientific

def ofBits (style : Style) (bits : UInt64) : String :=
  let sign := if bits.toNat / 0x8000000000000000 = 1 then "-" else ""
  let magnitude := bits.toNat % 0x8000000000000000
  if 0x7ff0000000000000 < magnitude then "NaN"
  else if magnitude = 0x7ff0000000000000 then sign ++ "inf"
  else if magnitude = 0 then sign ++ "0.0"
  else sign ++ write style (shortest style.tie (Binary.ofBits magnitude))

/-- The float nearest to a decimal. Beyond the range of floats the exponent is cut short, which
changes nothing: the result is zero or infinite all the same. -/
def toFloat (negative : Bool) (decimal : Decimal) : Float :=
  let size := (toString decimal.digits).length
  let exponent := max (-(400 + size : Int)) (min 400 decimal.exponent)
  let magnitude := Float.ofScientific decimal.digits (exponent < 0) exponent.natAbs
  if negative then -magnitude else magnitude

end Decimal

end DevicePlan
