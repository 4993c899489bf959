namespace BrightScript.Decimal

/-- What a floating-point number stands for. A finite number is `mantissa * 2 ^ exponent`, with
the sign kept apart so that the two zeros differ. -/
inductive Binary where
  | nan
  | infinite (negative : Bool)
  | finite (negative : Bool) (mantissa : Nat) (exponent : Int)
  deriving DecidableEq, Repr

/-- Reads the sign, exponent and fraction fields of a number. -/
def Binary.ofFloat (value : Float) : Binary :=
  let bits : Nat := value.toBits.toNat
  let negative := bits / 0x8000000000000000 == 1
  let field : Nat := bits / 0x10000000000000 % 0x800
  let fraction : Nat := bits % 0x10000000000000
  if field = 2047 then
    if fraction = 0 then .infinite negative else .nan
  else if field = 0 then .finite negative fraction (-1074)
  else .finite negative (0x10000000000000 + fraction) ((field : Int) - 1075)

/-- The magnitude of a finite number without its fractional part. -/
def wholePart (mantissa : Nat) (exponent : Int) : Nat :=
  if 0 ≤ exponent then mantissa * Nat.pow 2 exponent.toNat
  else mantissa / Nat.pow 2 (-exponent).toNat

/-- Whether a number is finite and has no fractional part. -/
def isWhole (value : Float) : Bool :=
  match Binary.ofFloat value with
  | .finite _ mantissa exponent => 0 ≤ exponent || mantissa % Nat.pow 2 (-exponent).toNat == 0
  | _ => false

/-- The 64-bit integer nearest to `whole`. -/
def clampInt64 (whole : Int) : Int64 :=
  if whole < Int64.minValue.toInt then Int64.minValue
  else if Int64.maxValue.toInt < whole then Int64.maxValue
  else Int64.ofInt whole

/-- Cuts off the fractional part and clamps to 64 bits; what is not a number becomes zero. -/
def toInt64 (value : Float) : Int64 :=
  match Binary.ofFloat value with
  | .nan => 0
  | .infinite negative => if negative then Int64.minValue else Int64.maxValue
  | .finite negative mantissa exponent =>
    let whole : Int := wholePart mantissa exponent
    clampInt64 (if negative then -whole else whole)

end BrightScript.Decimal
