import BrightScript.Decimal.Read
import BrightScript.Text.Blank

namespace BrightScript.Decimal

/-- The value of the longest number at the start of a text, after blanks: an optional sign, and
digits with at most one point. It is zero where there are no digits. -/
def leadingNumber (text : String) : Float :=
  let (negative, chars) := splitSign (Text.trimStartChars text.toList)
  let whole := chars.takeWhile Char.isDigit
  let fraction :=
    match chars.dropWhile Char.isDigit with
    | '.' :: rest => rest.takeWhile Char.isDigit
    | _ => []
  if whole.isEmpty && fraction.isEmpty then 0.0 else ofParts negative whole fraction 0

end BrightScript.Decimal
