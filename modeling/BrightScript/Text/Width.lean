import BrightScript.Text.WidthTable

namespace BrightScript.Text

/-- The columns that a character takes. Controls count as one, and one sign of Khmer is as wide as
three letters. -/
def displayWidth (c : Char) : Nat :=
  if c.toNat < 0xA0 then 1
  else if c = '\u17d8' then 3
  else if zeroWidth.contains c then 0
  else if doubleWidth.contains c then 2
  else 1

end BrightScript.Text
