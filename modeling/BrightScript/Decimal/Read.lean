namespace BrightScript.Decimal

def digitValue (c : Char) : Nat := c.toNat - '0'.toNat

/-- The number that a list of digits writes, after the digits read so far. -/
def readDigits (start : Nat) (digits : List Char) : Nat :=
  digits.foldl (fun total c => 10 * total + digitValue c) start

/-- The floating-point number nearest to `digits * 10 ^ exponent`. Exponents beyond the range of
the type go to infinity or to zero without being computed. -/
def nearest (digits : Nat) (exponent : Int) : Float :=
  let size : Int := (Nat.toDigits 10 digits).length + exponent
  if digits = 0 ∨ size < -330 then 0.0
  else if 310 < size then 1.0 / 0.0
  else if 0 ≤ exponent then Float.ofScientific digits false exponent.toNat
  else Float.ofScientific digits true (-exponent).toNat

/-- The number with the given digits before and after the point, times a power of ten. -/
def ofParts (negative : Bool) (whole fraction : List Char) (exponent : Int) : Float :=
  let magnitude := nearest (readDigits (readDigits 0 whole) fraction) (exponent - fraction.length)
  if negative then -magnitude else magnitude

/-- Takes a leading sign off a text; the flag tells a minus. -/
def splitSign : List Char → Bool × List Char
  | '-' :: rest => (true, rest)
  | '+' :: rest => (false, rest)
  | chars => (false, chars)

/-- Reads a signed integer exponent after its mark. -/
def readExponent? (chars : List Char) : Option Int :=
  let (negative, digits) := splitSign chars
  if digits.isEmpty || !digits.all Char.isDigit then none
  else
    let size : Int := readDigits 0 digits
    some (if negative then -size else size)

/-- Reads a whole text as a number: a sign, digits with an optional point, and an optional
exponent, or one of the names of infinity and of no number. -/
def ofText? (text : String) : Option Float :=
  let (negative, chars) := splitSign text.toList
  let sign (magnitude : Float) : Float := if negative then -magnitude else magnitude
  match (String.ofList chars).toLower with
  | "inf" | "infinity" => some (sign (1.0 / 0.0))
  | "nan" => some (sign (0.0 / 0.0))
  | _ =>
    let whole := chars.takeWhile Char.isDigit
    let afterWhole := chars.dropWhile Char.isDigit
    let (fraction, rest) :=
      match afterWhole with
      | '.' :: tail => (tail.takeWhile Char.isDigit, tail.dropWhile Char.isDigit)
      | _ => ([], afterWhole)
    if whole.isEmpty && fraction.isEmpty then none
    else
      match rest with
      | [] => some (ofParts negative whole fraction 0)
      | mark :: tail =>
        if mark = 'e' ∨ mark = 'E' then (readExponent? tail).map (ofParts negative whole fraction)
        else none

end BrightScript.Decimal
