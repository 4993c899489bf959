import BrightScript.Decimal.Read
import BrightScript.Json.Basic

/-!
Reading documents. The text is first cut into marks, and the marks are then folded into a document
with the open arrays and objects on a stack.
-/

namespace BrightScript.Json

/-- What a document is made of: punctuation, and values that hold no others. -/
inductive Mark where
  | openArray
  | closeArray
  | openObject
  | closeObject
  | comma
  | colon
  | scalar (value : Json)
  deriving Repr

/-- The characters that may stand between marks. -/
def isSpace (c : Char) : Bool := c == ' ' || c == '\n' || c == '\t' || c == '\r'

def hexDigitValue? (c : Char) : Option Nat :=
  if '0' ≤ c && c ≤ '9' then some (c.toNat - 48)
  else if 'a' ≤ c && c ≤ 'f' then some (c.toNat - 87)
  else if 'A' ≤ c && c ≤ 'F' then some (c.toNat - 55)
  else none

/-- The value of four hexadecimal digits. -/
def hexUnit? (a b c d : Char) : Option Nat := do
  return (((← hexDigitValue? a) * 16 + (← hexDigitValue? b)) * 16 + (← hexDigitValue? c)) * 16 +
    (← hexDigitValue? d)

/-- The character that an escape of one letter stands for. -/
def plainEscape? : Char → Option Char
  | '"' => some '"'
  | '\\' => some '\\'
  | '/' => some '/'
  | 'b' => some '\x08'
  | 'f' => some '\x0c'
  | 'n' => some '\n'
  | 'r' => some '\r'
  | 't' => some '\t'
  | _ => none

/-- A text that is being read after its opening quote. -/
structure PartialText where
  /-- The characters read so far, latest first. -/
  value : List Char := []
  /-- The first half of a pair of escapes that together write one character. -/
  high : Option Nat := none
  /-- Whether half of such a pair stood alone. -/
  broken : Bool := false
  deriving DecidableEq, Repr

namespace PartialText

/-- Goes on behind a first half that no second half follows. -/
def settle (text : PartialText) : PartialText :=
  { text with high := none, broken := text.broken || text.high.isSome }

def add (text : PartialText) (c : Char) : PartialText :=
  { text.settle with value := c :: text.value }

/-- Adds what an escape of four digits writes. -/
def addUnit (text : PartialText) (unit : Nat) : PartialText :=
  if 0xDC00 ≤ unit && unit < 0xE000 then
    match text.high with
    | some first =>
      let code := 0x10000 + (first - 0xD800) * 1024 + (unit - 0xDC00)
      { text with value := Char.ofNat code :: text.value, high := none }
    | none => { text with broken := true }
  else if 0xD800 ≤ unit && unit < 0xDC00 then { text.settle with high := some unit }
  else text.add (Char.ofNat unit)

/-- The text once its closing quote is reached. -/
def finish (text : PartialText) : Json :=
  if text.settle.broken then .unreadable else .text (String.ofList text.value.reverse)

end PartialText

/-- Reads a quoted text after its opening quote. -/
def readText (text : PartialText) : List Char → Option (Json × List Char)
  | '\\' :: 'u' :: a :: b :: c :: d :: rest =>
    match hexUnit? a b c d with
    | some unit => readText (text.addUnit unit) rest
    | none => none
  | '\\' :: letter :: rest =>
    match plainEscape? letter with
    | some c => readText (text.add c) rest
    | none => none
  | '"' :: rest => some (text.finish, rest)
  | c :: rest => if c.toNat < 32 || c == '\\' then none else readText (text.add c) rest
  | [] => none

theorem readText_length_lt {text : PartialText} {chars rest : List Char} {document : Json}
    (h : readText text chars = some (document, rest)) : rest.length < chars.length := by
  fun_induction readText text chars <;> simp_all <;> omega

/-- The marks of a number: its sign, whole digits, fraction and exponent. -/
structure Numeral where
  negative : Bool
  whole : List Char
  fraction : Option (List Char)
  exponent : Option Int
  deriving Repr

/-- The document for a numeral: whole numbers that fit 64 bits stay exact; a negative zero and
anything with a fraction or an exponent is a floating-point number. -/
def Numeral.value (numeral : Numeral) : Json :=
  let magnitude := Decimal.readDigits 0 numeral.whole
  let exact : Option Json :=
    if numeral.fraction.isSome || numeral.exponent.isSome then none
    else if numeral.negative then
      if 0 < magnitude && magnitude ≤ 0x8000000000000000 then some (.integer (-magnitude)) else none
    else if magnitude < 0x10000000000000000 then some (.integer magnitude) else none
  exact.getD <| .float <|
    Decimal.ofParts numeral.negative numeral.whole (numeral.fraction.getD [])
      (numeral.exponent.getD 0)

/-- The exponent of a numeral and what follows it, if there is one. -/
def readExponentPart (chars : List Char) : Option (Option Int × List Char) :=
  match chars with
  | mark :: rest =>
    if mark == 'e' || mark == 'E' then
      let (negative, digits) := Decimal.splitSign rest
      let size := digits.takeWhile Char.isDigit
      if size.isEmpty then none
      else
        let value : Int := Decimal.readDigits 0 size
        some (some (if negative then -value else value), digits.dropWhile Char.isDigit)
    else some (none, chars)
  | [] => some (none, chars)

/-- The fraction of a numeral and what follows it, if there is one. -/
def readFractionPart (chars : List Char) : Option (Option (List Char) × List Char) :=
  match chars with
  | '.' :: rest =>
    let digits := rest.takeWhile Char.isDigit
    if digits.isEmpty then none else some (some digits, rest.dropWhile Char.isDigit)
  | _ => some (none, chars)

/-- Takes the minus sign off a numeral. -/
def splitMinus : List Char → Bool × List Char
  | '-' :: rest => (true, rest)
  | chars => (false, chars)

/-- Reads a number. No digit may follow a leading zero. -/
def readNumber (chars : List Char) : Option (Json × List Char) :=
  let (negative, unsigned) := splitMinus chars
  let digits := unsigned.takeWhile Char.isDigit
  if digits.isEmpty || (digits.length > 1 && digits.head? == some '0') then none
  else do
    let (fraction, rest) ← readFractionPart (unsigned.dropWhile Char.isDigit)
    let (exponent, rest) ← readExponentPart rest
    return (Numeral.value ⟨negative, digits, fraction, exponent⟩, rest)

theorem dropWhile_length_le (p : Char → Bool) (chars : List Char) :
    (chars.dropWhile p).length ≤ chars.length :=
  (List.dropWhile_suffix p).length_le

theorem splitSign_length_le (chars : List Char) :
    (Decimal.splitSign chars).2.length ≤ chars.length := by
  unfold Decimal.splitSign
  split <;> simp

theorem readExponentPart_length_le {chars rest : List Char} {exponent : Option Int}
    (h : readExponentPart chars = some (exponent, rest)) : rest.length ≤ chars.length := by
  unfold readExponentPart at h
  split at h
  · rename_i mark tail
    split at h
    · dsimp only at h
      split at h
      · simp at h
      · simp only [Option.some.injEq, Prod.mk.injEq] at h
        obtain ⟨-, rfl⟩ := h
        have h1 := dropWhile_length_le Char.isDigit (Decimal.splitSign tail).2
        have h2 := splitSign_length_le tail
        simp only [List.length_cons]
        omega
    · simp_all
  · simp_all

theorem readFractionPart_length_le {chars rest : List Char} {fraction : Option (List Char)}
    (h : readFractionPart chars = some (fraction, rest)) : rest.length ≤ chars.length := by
  unfold readFractionPart at h
  split at h
  · rename_i tail
    dsimp only at h
    split at h
    · simp at h
    · simp only [Option.some.injEq, Prod.mk.injEq] at h
      obtain ⟨-, rfl⟩ := h
      have h1 := dropWhile_length_le Char.isDigit tail
      simp only [List.length_cons]
      omega
  · simp_all

theorem splitMinus_length_le (chars : List Char) : (splitMinus chars).2.length ≤ chars.length := by
  unfold splitMinus
  split <;> simp

theorem readNumber_length_lt {chars rest : List Char} {document : Json}
    (h : readNumber chars = some (document, rest)) : rest.length < chars.length := by
  unfold readNumber at h
  dsimp only at h
  split at h
  · simp at h
  · rename_i hdigits
    simp only [Option.bind_eq_bind, Option.bind_eq_some_iff, Option.pure_def, Option.some.injEq,
      Prod.mk.injEq, Prod.exists] at h
    obtain ⟨fraction, afterFraction, hfraction, exponent, afterExponent, hexponent, -, rfl⟩ := h
    have h1 := readFractionPart_length_le hfraction
    have h2 := readExponentPart_length_le hexponent
    have h3 := splitMinus_length_le chars
    have h4 : 0 < ((splitMinus chars).2.takeWhile Char.isDigit).length := by
      rw [List.length_pos_iff]
      intro hnil
      simp [hnil] at hdigits
    have h5 := congrArg List.length
      ((splitMinus chars).2.takeWhile_append_dropWhile (p := Char.isDigit))
    rw [List.length_append] at h5
    omega

/-- The mark at the front of a text that starts with no space. -/
def readMark (chars : List Char) : Option (Mark × List Char) :=
  match chars with
  | '[' :: rest => some (.openArray, rest)
  | ']' :: rest => some (.closeArray, rest)
  | '\x7b' :: rest => some (.openObject, rest)
  | '\x7d' :: rest => some (.closeObject, rest)
  | ',' :: rest => some (.comma, rest)
  | ':' :: rest => some (.colon, rest)
  | 'n' :: 'u' :: 'l' :: 'l' :: rest => some (.scalar .null, rest)
  | 't' :: 'r' :: 'u' :: 'e' :: rest => some (.scalar (.bool true), rest)
  | 'f' :: 'a' :: 'l' :: 's' :: 'e' :: rest => some (.scalar (.bool false), rest)
  | '"' :: rest => (readText {} rest).map fun (value, rest) => (.scalar value, rest)
  | _ => (readNumber chars).map fun (value, rest) => (.scalar value, rest)

theorem readMark_length_lt {chars rest : List Char} {mark : Mark}
    (h : readMark chars = some (mark, rest)) : rest.length < chars.length := by
  unfold readMark at h
  split at h
  case h_10 tail =>
    simp only [Option.map_eq_some_iff, Prod.mk.injEq, Prod.exists] at h
    obtain ⟨text, after, htext, -, rfl⟩ := h
    have := readText_length_lt htext
    simp only [List.length_cons]
    omega
  case h_11 =>
    simp only [Option.map_eq_some_iff, Prod.mk.injEq, Prod.exists] at h
    obtain ⟨document, after, hnumber, -, rfl⟩ := h
    exact readNumber_length_lt hnumber
  all_goals
    simp only [Option.some.injEq, Prod.mk.injEq] at h
    obtain ⟨-, rfl⟩ := h
    simp only [List.length_cons]
    omega

def marks (chars : List Char) : Option (List Mark) :=
  match chars with
  | [] => some []
  | c :: rest =>
    if isSpace c then marks rest
    else
      match _hmark : readMark (c :: rest) with
      | none => none
      | some (mark, after) => (marks after).map (mark :: ·)
termination_by chars.length
decreasing_by
  · simp
  · exact readMark_length_lt _hmark

/-- An array or object that is not closed yet, with what it holds so far, latest first. -/
inductive Frame where
  | array (items : List Json)
  | object (members : List (Option String × Json)) (name : Option String)
  deriving Repr

/-- The object of members that are given latest first. A name that cannot be read makes it
unreadable. -/
def objectOf (members : List (Option String × Json)) : Json :=
  match members.reverse.mapM fun (name, value) => name.map (·, value) with
  | some members => .object members
  | none => .unreadable

/-- What may come next. -/
inductive Phase where
  /-- A value. -/
  | value
  /-- A value, or the end of the array that was just opened. -/
  | firstItem
  /-- The name of a member. -/
  | name (members : List (Option String × Json))
  /-- The name of a member, or the end of the object that was just opened. -/
  | firstName
  /-- The colon after a name. -/
  | colon (members : List (Option String × Json)) (name : Option String)
  /-- A comma or the end of the innermost array or object. -/
  | next
  /-- Nothing: the document is complete. -/
  | done (document : Json)
  deriving Repr

/-- Hands a finished value to the innermost open array or object. -/
def complete (value : Json) : List Frame → Phase × List Frame
  | [] => (.done value, [])
  | .array items :: stack => (.next, .array (value :: items) :: stack)
  | .object members name :: stack => (.next, .object ((name, value) :: members) name :: stack)

/-- What the next mark leads to; `none` refuses the document. -/
def step (phase : Phase) (stack : List Frame) (mark : Mark) : Option (Phase × List Frame) :=
  match phase, mark, stack with
  | .firstItem, .closeArray, .array items :: rest => some (complete (.array items.reverse) rest)
  | .value, .scalar value, _ | .firstItem, .scalar value, _ => some (complete value stack)
  | .value, .openArray, _ | .firstItem, .openArray, _ =>
    some (.firstItem, .array [] :: stack)
  | .value, .openObject, _ | .firstItem, .openObject, _ =>
    some (.firstName, stack)
  | .firstName, .closeObject, _ => some (complete (.object []) stack)
  | .firstName, .scalar (.text name), _ => some (.colon [] (some name), stack)
  | .firstName, .scalar .unreadable, _ => some (.colon [] none, stack)
  | .name members, .scalar (.text name), _ => some (.colon members (some name), stack)
  | .name members, .scalar .unreadable, _ => some (.colon members none, stack)
  | .colon members name, .colon, _ => some (.value, .object members name :: stack)
  | .next, .comma, .array _ :: _ => some (.value, stack)
  | .next, .closeArray, .array items :: rest => some (complete (.array items.reverse) rest)
  | .next, .comma, .object members _ :: rest => some (.name members, rest)
  | .next, .closeObject, .object members _ :: rest =>
    some (complete (objectOf members) rest)
  | _, _, _ => none

def assemble (phase : Phase) (stack : List Frame) : List Mark → Option Json
  | [] =>
    match phase with
    | .done document => some document
    | _ => none
  | mark :: rest =>
    match step phase stack mark with
    | some (phase, stack) => assemble phase stack rest
    | none => none

/-- Reads a text that holds one document and nothing else. -/
def parse? (text : String) : Option Json := do
  assemble .value [] (← marks text.toList)

end BrightScript.Json
