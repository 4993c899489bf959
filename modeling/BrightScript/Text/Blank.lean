namespace BrightScript.Text

/-- The characters with the White_Space property. -/
def isBlank (c : Char) : Bool :=
  let code := c.toNat
  (0x9 ≤ code && code ≤ 0xD) || code == 0x20 || code == 0x85 || code == 0xA0 || code == 0x1680 ||
    (0x2000 ≤ code && code ≤ 0x200A) || code == 0x2028 || code == 0x2029 || code == 0x202F ||
    code == 0x205F || code == 0x3000

/-- The text from its first character that is not blank. -/
def trimStartChars (chars : List Char) : List Char := chars.dropWhile isBlank

/-- The text up to its last character that is not blank. -/
def trimEndChars (chars : List Char) : List Char := (chars.reverse.dropWhile isBlank).reverse

def trimChars (chars : List Char) : List Char := trimEndChars (trimStartChars chars)

def trim (text : String) : String := String.ofList (trimChars text.toList)

end BrightScript.Text
