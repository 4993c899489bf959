import BrightScript.Decimal.Binary

namespace BrightScript.Decimal

/-- The decimal `digits * 10 ^ exponent`. -/
structure Scaled where
  digits : Nat
  exponent : Int
  deriving DecidableEq, Repr

/-- The same decimal without trailing zeros in its digits. -/
def Scaled.trimmed (decimal : Scaled) : Nat → Scaled
  | 0 => decimal
  | steps + 1 =>
    if decimal.digits ≠ 0 ∧ decimal.digits % 10 = 0 then
      Scaled.trimmed ⟨decimal.digits / 10, decimal.exponent + 1⟩ steps
    else decimal

/-- The reals that round to one number, as `low` to `high` around `value`, all counted in units of
`2 ^ exponent`; the ends belong to it when `closed`. -/
structure Rounding where
  low : Nat
  value : Nat
  high : Nat
  exponent : Int
  closed : Bool
  deriving DecidableEq, Repr

/-- The rounding interval of `mantissa * 2 ^ exponent`. Below a power of two the next smaller
number is only half as far away. -/
def Rounding.around (mantissa : Nat) (exponent : Int) : Rounding where
  low := if mantissa = 0x10000000000000 ∧ -1074 < exponent then 4 * mantissa - 1 else 4 * mantissa - 2
  value := 4 * mantissa
  high := 4 * mantissa + 2
  exponent := exponent - 2
  closed := mantissa % 2 == 0

/-- The point of the grid of multiples of `10 ^ power` that lies in the interval, the nearer one if
both neighbours of the value do. -/
def Rounding.gridPoint? (interval : Rounding) (power : Int) : Option Nat :=
  let unit := Nat.pow 10 power.toNat * Nat.pow 2 (-interval.exponent).toNat
  let scale := Nat.pow 10 (-power).toNat * Nat.pow 2 interval.exponent.toNat
  let inside (point : Nat) : Bool :=
    let scaled := point * unit
    if interval.closed then interval.low * scale ≤ scaled && scaled ≤ interval.high * scale
    else interval.low * scale < scaled && scaled < interval.high * scale
  let below := interval.value * scale / unit
  let remainder := interval.value * scale - below * unit
  match below != 0 && inside below, inside (below + 1) with
  | true, true =>
    if 2 * remainder < unit || (2 * remainder == unit && below % 2 == 0) then some below
    else some (below + 1)
  | true, false => some below
  | false, true => some (below + 1)
  | false, false => none

/-- The coarsest of the next `steps` grids that has a point in the interval, from `10 ^ power`
downwards. -/
def Rounding.coarsest (interval : Rounding) (power : Int) : Nat → Scaled
  | 0 => ⟨0, 0⟩
  | steps + 1 =>
    match interval.gridPoint? power with
    | some point => ⟨point, power⟩
    | none => interval.coarsest (power - 1) steps

/-- The decimal with the fewest digits that rounds to `mantissa * 2 ^ exponent`, and of those the
nearest to it. The search starts above the number and ends at seventeen digits, which always
suffice. -/
def shortest (mantissa : Nat) (exponent : Int) : Scaled :=
  if mantissa = 0 then ⟨0, 0⟩
  else
    let size : Int := Nat.log2 mantissa + exponent
    -- 0.30103 is the decimal logarithm of 2, and two places more make up for what is cut off
    let start := size * 30103 / 100000 + 2
    ((Rounding.around mantissa exponent).coarsest start 22).trimmed 22

def digitChars (value : Nat) : List Char := Nat.toDigits 10 value

/-- A decimal written in full, without an exponent and without a fraction that is zero. -/
def Scaled.positional (decimal : Scaled) : String :=
  let digits := digitChars decimal.digits
  if 0 ≤ decimal.exponent then
    String.ofList (digits ++ List.replicate decimal.exponent.toNat '0')
  else
    let places := (-decimal.exponent).toNat
    let padded := List.replicate (places + 1 - digits.length) '0' ++ digits
    let split := padded.length - places
    String.ofList (padded.take split ++ '.' :: padded.drop split)

/-- The text of a number: its shortest decimal in full. -/
def text (value : Float) : String :=
  match Binary.ofFloat value with
  | .nan => "NaN"
  | .infinite negative => if negative then "-inf" else "inf"
  | .finite negative mantissa exponent =>
    let magnitude := if mantissa = 0 then "0" else (shortest mantissa exponent).positional
    if negative then "-" ++ magnitude else magnitude

/-- The text of a number in data exchange: always with a fraction or an exponent, and with an
exponent, which has a sign, when the point lies outside the digits by more than sixteen places to the
right or five to the left. Only finite numbers have one. -/
def exchangeText? (value : Float) : Option String :=
  match Binary.ofFloat value with
  | .nan | .infinite _ => none
  | .finite negative mantissa exponent =>
    let decimal := shortest mantissa exponent
    let digits := digitChars decimal.digits
    let point : Int := digits.length + decimal.exponent
    let magnitude :=
      if mantissa = 0 then "0.0"
      else if 0 ≤ decimal.exponent ∧ point ≤ 16 then decimal.positional ++ ".0"
      else if -5 < point ∧ point ≤ 16 then decimal.positional
      else
        let lead := digits.take 1
        let tail := digits.drop 1
        let significand := if tail.isEmpty then lead else lead ++ '.' :: tail
        let sign := if 0 < point then "+" else ""
        String.ofList significand ++ "e" ++ sign ++ toString (point - 1)
    some (if negative then "-" ++ magnitude else magnitude)

end BrightScript.Decimal
