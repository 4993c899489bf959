import BrightScript.Pattern.Property
import BrightScript.Pattern.Size
import BrightScript.Text.NameTable

namespace BrightScript

/-- Why a pattern cannot be made. -/
inductive PatternError where
  | unsupportedFlag (flag : Char)
  | malformed
  | tooLarge
  deriving DecidableEq, Repr

/-- How deeply a pattern may be nested. -/
def Pattern.depthLimit : Nat := 250

/-- The first line of the text that reports an error. -/
def PatternError.message : PatternError → String
  | .unsupportedFlag flag => "unsupported flag '" ++ flag.toString ++ "'"
  | .malformed => "regex parse error:"
  | .tooLarge => "Compiled regex exceeds size limit of " ++ toString Pattern.sizeLimit ++ " bytes."

namespace Pattern

/-- How the text of a pattern is read. -/
structure Flags where
  ignoreCase : Bool := false
  multiLine : Bool := false
  dotAll : Bool := false
  lazyFirst : Bool := false
  carriageReturns : Bool := false
  spaced : Bool := false
  unicode : Bool := true
  deriving DecidableEq, Repr, Inhabited

namespace Reader

/-- What is left of a pattern text. -/
abbrev Rest := List Char

/-- Skips blanks, and comments from `#` to the end of the line. -/
def skipSpace (inComment : Bool) : Rest → Rest
  | [] => []
  | c :: rest =>
    if inComment then skipSpace (c != '\n') rest
    else if Text.isBlank c then skipSpace false rest
    else if c = '#' then skipSpace true rest
    else c :: rest

/-- Skips what has no meaning in a spaced pattern. -/
def skip (flags : Flags) (rest : Rest) : Rest :=
  if flags.spaced then skipSpace false rest else rest

/-- The next character that has a meaning, as it is looked up behind the start of a range. -/
def peek (flags : Flags) (rest : Rest) : Option Char :=
  if flags.spaced then
    match rest.dropWhile Text.isBlank with
    | '#' :: comment => (comment.dropWhile Text.isBlank).head?
    | other => other.head?
  else rest.head?

/-- A set and, where case is ignored, the variants of its members. -/
def foldSet (flags : Flags) (set : CharSet) : CharSet :=
  if !flags.ignoreCase then set
  else if flags.unicode then .folded set
  else .foldedAscii set

/-- A set, or its complement if it is `negated`. Without Unicode there are no complements, since they
would hold parts of characters. -/
def negateSet (flags : Flags) (negated : Bool) (set : CharSet) : Except PatternError CharSet :=
  if !negated then .ok set
  else if flags.unicode then .ok (.complement set)
  else .error .malformed

/-- What a backslash and the characters behind it mean. -/
inductive Escape where
  | literal (c : Char)
  | set (members : CharSet)
  | assertion (test : Assertion)
  deriving DecidableEq, Repr

/-- The characters that have a meaning of their own somewhere in a pattern. -/
def isMeta (c : Char) : Bool := "\\.+*?()|[]\x7b\x7d^$#&-~".toList.contains c

/-- The characters that stand for themselves behind a backslash. -/
def isEscapable (c : Char) : Bool :=
  isMeta c || (c.toNat < 128 && !c.isAlphanum && c != '<' && c != '>')

def hexDigit? (c : Char) : Option Nat :=
  if c.isDigit then some (c.toNat - '0'.toNat)
  else if 'a' ≤ c && c ≤ 'f' then some (c.toNat - 'a'.toNat + 10)
  else if 'A' ≤ c && c ≤ 'F' then some (c.toNat - 'A'.toNat + 10)
  else none

/-- The character with a code, unless there is none. -/
def charOf (code : Nat) : Except PatternError Char :=
  if code.isValidChar then .ok (Char.ofNat code) else .error .malformed

def hexDigits (flags : Flags) (value : Nat) : Nat → Rest → Except PatternError (Nat × Rest)
  | 0, rest => .ok (value, rest)
  | count + 1, c :: rest =>
    match hexDigit? c with
    | some digit => hexDigits flags (value * 16 + digit) count (skip flags rest)
    | none => .error .malformed
  | _ + 1, [] => .error .malformed

/-- The part of a text before a closing curly bracket, without what has no meaning, and the rest.
`taken` holds what was read, last first. -/
def braced (flags : Flags) (inComment : Bool) (taken : List Char) :
    Rest → Except PatternError ((List Char) × Rest)
  | [] => .error .malformed
  | c :: rest =>
    if inComment then braced flags (c != '\n') taken rest
    else if flags.spaced && Text.isBlank c then braced flags false taken rest
    else if flags.spaced && c = '#' then braced flags true taken rest
    else if c = '\x7d' then .ok (taken.reverse, rest)
    else braced flags false (c :: taken) rest

/-- Reads the digits behind `\x`, `\u` or `\U`. Without Unicode, two digits alone give a byte, which
has to be a character. -/
def hexChar (flags : Flags) (count : Nat) (rest : Rest) : Except PatternError (Escape × Rest) :=
  match skip flags rest with
  | '\x7b' :: rest => do
    let (digits, rest) ← braced flags false [] rest
    if digits.isEmpty then .error .malformed
    else match digits.mapM hexDigit? with
      | some values =>
        let code := values.foldl (fun code digit => code * 16 + digit) 0
        .ok (.literal (← charOf code), skip flags rest)
      | none => .error .malformed
  | rest => do
    let (code, rest) ← hexDigits flags 0 count rest
    if !flags.unicode && count == 2 && code ≥ 128 then .error .malformed
    else .ok (.literal (← charOf code), rest)

/-- The characters that the name of a kind of word boundary is made of. -/
def isBoundaryChar (c : Char) : Bool := c.isAlpha || c == '-'

/-- Reads the name of a kind of word boundary in curly brackets. What does not begin like a name is
left alone. -/
def boundary (flags : Flags) (rest : Rest) : Except PatternError (Escape × Rest) :=
  let plain := Escape.assertion (.boundary flags.unicode)
  match rest with
  | '\x7b' :: inner =>
    let inner := skip flags inner
    match inner.head? with
    | none => .error .malformed
    | some c =>
      if !isBoundaryChar c then .ok (plain, rest)
      else do
        let (name, after) ← braced flags false [] inner
        match String.ofList name with
        | "start" => .ok (.assertion (.wordStart flags.unicode), after)
        | "end" => .ok (.assertion (.wordEnd flags.unicode), after)
        | "start-half" => .ok (.assertion (.notAfterWord flags.unicode), after)
        | "end-half" => .ok (.assertion (.notBeforeWord flags.unicode), after)
        | _ => .error .malformed
  | _ => .ok (plain, rest)

/-- The set of a class letter; a capital letter means the complement. -/
def letterClass (flags : Flags) (letter : Char) : Except PatternError Escape :=
  let unicodeSet : CharSet :=
    if letter.toLower = 'd' then .digit else if letter.toLower = 's' then .blank else .word
  let asciiSet : CharSet :=
    if letter.toLower = 'd' then .range '0' '9'
    else if letter.toLower = 's' then .ranges [('\t', '\r'), (' ', ' ')]
    else .ranges [('0', '9'), ('A', 'Z'), ('_', '_'), ('a', 'z')]
  if flags.unicode then
    .ok (.set (if letter.isUpper then .complement unicodeSet else unicodeSet))
  else if letter.isUpper then .error .malformed
  else .ok (.set asciiSet)

/-- The parts before and after the first `!=`. -/
def splitUnequal : List Char → Option (List Char × List Char)
  | '!' :: '=' :: value => some ([], value)
  | c :: rest => (splitUnequal rest).map fun (name, value) => (c :: name, value)
  | [] => none

/-- The characters with a property that is written in curly brackets: its name, or its name and a
value behind a colon or an equals sign. The value may also be denied. -/
def describedSet? (text : List Char) : Option (CharSet × Bool) :=
  match splitUnequal text with
  | some (name, value) => (CharSet.propertyValue? name value).map (·, true)
  | none =>
    match Text.splitOnce ':' text <|> Text.splitOnce '=' text with
    | some (name, value) => (CharSet.propertyValue? name value).map (·, false)
    | none => (CharSet.property? text).map (·, false)

/-- Reads a property behind `\p`, or behind `\P`, which means the complement. -/
def propertyClass (flags : Flags) (negated : Bool) (rest : Rest) :
    Except PatternError (Escape × Rest) := do
  let (described, rest) ← match skip flags rest with
    | '\x7b' :: inner => do
      let (text, rest) ← braced flags false [] inner
      .ok (describedSet? text, rest)
    | c :: rest =>
      .ok (if c = '\\' then none else (CharSet.property? [c]).map (·, false), skip flags rest)
    | [] => .error .malformed
  match described with
  | some (members, denied) =>
    if flags.unicode then
      .ok (.set (← negateSet flags (negated != denied) (foldSet flags members)), rest)
    else .error .malformed
  | none => .error .malformed

/-- Reads what follows a backslash. -/
def escape (flags : Flags) : Rest → Except PatternError (Escape × Rest)
  | [] => .error .malformed
  | c :: rest =>
    if isEscapable c then .ok (.literal c, rest)
    else match c with
      | 'x' => hexChar flags 2 rest
      | 'u' => hexChar flags 4 rest
      | 'U' => hexChar flags 8 rest
      | 'd' | 's' | 'w' | 'D' | 'S' | 'W' => do .ok (← letterClass flags c, rest)
      | 'p' => propertyClass flags false rest
      | 'P' => propertyClass flags true rest
      | 'a' => .ok (.literal '\x07', rest)
      | 'f' => .ok (.literal '\x0c', rest)
      | 't' => .ok (.literal '\t', rest)
      | 'n' => .ok (.literal '\n', rest)
      | 'r' => .ok (.literal '\r', rest)
      | 'v' => .ok (.literal '\x0b', rest)
      | 'A' => .ok (.assertion .textStart, rest)
      | 'z' => .ok (.assertion .textEnd, rest)
      | 'b' => boundary flags rest
      | 'B' => .ok (.assertion (.noBoundary flags.unicode), rest)
      | '<' => .ok (.assertion (.wordStart flags.unicode), rest)
      | '>' => .ok (.assertion (.wordEnd flags.unicode), rest)
      | _ => .error .malformed

/-- An operation between two sets in a class. -/
inductive SetOperator where
  | intersection
  | difference
  | symmetricDifference
  deriving DecidableEq, Repr

/-- A set and how deeply the text that describes it is nested. -/
structure NestedSet where
  members : CharSet := .none
  nesting : Nat := 0
  deriving DecidableEq, Repr, Inhabited

/-- The set that an operation gives. -/
def SetOperator.apply (operator : SetOperator) (left right : CharSet) : CharSet :=
  match operator with
  | .intersection => .intersection left right
  | .difference => .difference left right
  | .symmetricDifference => .symmetricDifference left right

/-- A class whose bracket is still open. -/
structure OpenClass where
  negated : Bool
  /-- The operation whose right side is being read, and its left side. -/
  pending : Option (SetOperator × NestedSet) := none
  /-- How many items were read since. -/
  count : Nat := 0
  /-- The union of these items. -/
  items : NestedSet := {}
  deriving DecidableEq, Repr, Inhabited

namespace OpenClass

/-- Adds to what the class holds. -/
def add (level : OpenClass) (set : CharSet) (nesting : Nat) : OpenClass :=
  { level with
    count := level.count + 1
    items := ⟨.union level.items.members set, max level.items.nesting nesting⟩ }

/-- The items read last. Two or more of them are nested in their union. -/
def joined (level : OpenClass) : NestedSet :=
  if level.count < 2 then level.items
  else { level.items with nesting := level.items.nesting + 1 }

/-- The set read so far. -/
def total (flags : Flags) (level : OpenClass) : NestedSet :=
  let right := level.joined
  match level.pending with
  | none => right
  | some (operator, left) =>
    ⟨operator.apply (foldSet flags left.members) (foldSet flags right.members),
      max left.nesting right.nesting + 1⟩

/-- Goes on to the right side of an operation. -/
def operate (flags : Flags) (level : OpenClass) (operator : SetOperator) : OpenClass :=
  { negated := level.negated, pending := some (operator, level.total flags) }

/-- The set of the class once its bracket is closed. -/
def finish (flags : Flags) (level : OpenClass) : Except PatternError NestedSet := do
  let total := level.total flags
  .ok ⟨← negateSet flags level.negated (foldSet flags total.members), total.nesting + 1⟩

end OpenClass

/-- Hyphens at the start of a class stand for themselves. -/
def leadingHyphens (flags : Flags) (inComment : Bool) (level : OpenClass) : Rest → OpenClass × Rest
  | [] => (level, [])
  | c :: rest =>
    if inComment then leadingHyphens flags (c != '\n') level rest
    else if c = '-' then leadingHyphens flags false (level.add (.single '-') 0) rest
    else if flags.spaced && Text.isBlank c then leadingHyphens flags false level rest
    else if flags.spaced && c = '#' then leadingHyphens flags true level rest
    else (level, c :: rest)

/-- Reads the start of a class behind its bracket. A closing bracket that comes first stands for
itself. -/
def openClass (flags : Flags) (rest : Rest) : Except PatternError (OpenClass × Rest) :=
  let rest := skip flags rest
  let (negated, rest) := match rest with
    | '^' :: rest => (true, skip flags rest)
    | rest => (false, rest)
  let (level, rest) := leadingHyphens flags false { negated := negated } rest
  match rest with
  | [] => .error .malformed
  | ']' :: after =>
    if level.count = 0 then
      let after := skip flags after
      if after.isEmpty then .error .malformed else .ok (level.add (.single ']') 0, after)
    else .ok (level, rest)
  | _ => .ok (level, rest)

/-- Reads a named class of ASCII characters behind its bracket; a circumflex before the name means the
complement. -/
def namedClass? : Rest → Option (CharSet × Bool × Rest)
  | ':' :: rest =>
    let (negated, rest) := match rest with
      | '^' :: rest => (true, rest)
      | rest => (false, rest)
    match rest.dropWhile (· != ':'), CharSet.named? (String.ofList (rest.takeWhile (· != ':'))) with
    | ':' :: ']' :: after, some members => some (members, negated, after)
    | _, _ => none
  | _ => none

/-- Reads one character or escape of a class. -/
def classItem (flags : Flags) : Rest → Except PatternError (Escape × Rest)
  | [] => .error .malformed
  | '\\' :: rest => escape flags rest
  | c :: rest => .ok (.literal c, rest)

/-- The set of one item of a class. -/
def itemSet (flags : Flags) : Escape → Except PatternError CharSet
  | .literal c => if flags.unicode || c.toNat < 128 then .ok (.single c) else .error .malformed
  | .set members => .ok members
  | .assertion _ => .error .malformed

/-- The set of a range between two items. -/
def rangeSet (flags : Flags) (first last : Escape) : Except PatternError CharSet :=
  match first, last with
  | .literal first, .literal last =>
    if first ≤ last && (flags.unicode || last.toNat < 128) then .ok (.range first last)
    else .error .malformed
  | _, _ => .error .malformed

/-- Reads an item of a class, or a range between two. -/
def classRange (flags : Flags) (rest : Rest) : Except PatternError (CharSet × Rest) := do
  let (first, rest) ← classItem flags rest
  match skip flags rest with
  | [] => .error .malformed
  | '-' :: after =>
    let next := peek flags after
    if next == some ']' || next == some '-' then .ok (← itemSet flags first, '-' :: after)
    else do
      let (last, rest) ← classItem flags (skip flags after)
      .ok (← rangeSet flags first last, rest)
  | rest => .ok (← itemSet flags first, rest)

/-- Reads the rest of a class with the brackets in `outer` open around `level`. -/
def classRest (flags : Flags) (level : OpenClass) (outer : List OpenClass) (rest : Rest) :
    Except PatternError (NestedSet × Rest) :=
  let go (level : OpenClass) (outer : List OpenClass) (after : Rest) :
      Except PatternError (NestedSet × Rest) :=
    if _h : after.length < rest.length then classRest flags level outer after
    else .error .malformed
  match skip flags rest with
  | [] => .error .malformed
  | '[' :: after =>
    match namedClass? after with
    | some (members, negated, after) => do
      go (level.add (← negateSet flags negated (foldSet flags members)) 0) outer after
    | none => do
      let (inner, after) ← openClass flags after
      go inner (level :: outer) after
  | ']' :: after => do
    let read ← level.finish flags
    match outer with
    | [] => .ok (read, after)
    | level :: outer => go (level.add read.members read.nesting) outer after
  | '&' :: '&' :: after => go (level.operate flags .intersection) outer after
  | '-' :: '-' :: after => go (level.operate flags .difference) outer after
  | '~' :: '~' :: after => go (level.operate flags .symmetricDifference) outer after
  | other => do
    let (members, after) ← classRange flags other
    go (level.add members 0) outer after
termination_by rest.length

/-- Reads a class behind its bracket. -/
def readClass (flags : Flags) (rest : Rest) : Except PatternError (NestedSet × Rest) := do
  let (level, rest) ← openClass flags rest
  classRest flags level [] rest

/-- Reads the digits of a number, between which a spaced pattern may have blanks and comments. -/
def decimalDigits (flags : Flags) (inComment : Bool) (digits : List Char) : Rest → List Char × Rest
  | [] => (digits.reverse, [])
  | c :: rest =>
    if inComment then decimalDigits flags (c != '\n') digits rest
    else if c.isDigit then decimalDigits flags false (c :: digits) rest
    else if flags.spaced && Text.isBlank c then decimalDigits flags false digits rest
    else if flags.spaced && c = '#' then decimalDigits flags true digits rest
    else (digits.reverse, c :: rest)

/-- Reads a number of 32 bits with blanks around it. -/
def decimal? (flags : Flags) (rest : Rest) : Option Nat × Rest :=
  let (digits, rest) := decimalDigits flags false [] (rest.dropWhile Text.isBlank)
  let rest := rest.dropWhile Text.isBlank
  let value := digits.foldl (fun value c => value * 10 + (c.toNat - '0'.toNat)) 0
  (if digits.isEmpty || value ≥ 0x100000000 then none else some value, rest)

/-- Reads the bounds of a repetition behind the curly bracket. -/
def repetitionBounds (flags : Flags) (rest : Rest) : Except PatternError ((Nat × Option Nat) × Rest) :=
  match decimal? flags (skip flags rest) with
  | (some least, '\x7d' :: after) => .ok ((least, some least), after)
  | (some least, ',' :: after) =>
    match skip flags after with
    | '\x7d' :: after => .ok ((least, none), after)
    | after =>
      match decimal? flags after with
      | (some most, '\x7d' :: after) =>
        if least ≤ most then .ok ((least, some most), after) else .error .malformed
      | _ => .error .malformed
  | _ => .error .malformed

def setFlag (flags : Flags) (value : Bool) : Char → Option Flags
  | 'i' => some { flags with ignoreCase := value }
  | 'm' => some { flags with multiLine := value }
  | 's' => some { flags with dotAll := value }
  | 'U' => some { flags with lazyFirst := value }
  | 'R' => some { flags with carriageReturns := value }
  | 'x' => some { flags with spaced := value }
  | 'u' => some { flags with unicode := value }
  | _ => none

/-- Sets the flags before a hyphen and clears those behind it. No flag may occur twice. -/
def setFlags (flags : Flags) (value : Bool) (seen : List Char) : List Char → Option Flags
  | [] => if seen.head? == some '-' then none else some flags
  | c :: rest =>
    if seen.contains c then none
    else if c = '-' then setFlags flags false ('-' :: seen) rest
    else match setFlag flags value c with
      | some flags => setFlags flags value (c :: seen) rest
      | none => none

/-- The characters that the name of a group is made of. -/
def isNameChar (first : Bool) (c : Char) : Bool :=
  let isLetter := if c.toNat < 128 then c.isAlpha else Text.nameLetters.contains c
  let isNumber := if c.toNat < 128 then c.isDigit else Text.nameNumbers.contains c
  c == '_' || isLetter || (!first && (isNumber || c == '.' || c == '[' || c == ']'))

def isGroupName : List Char → Bool
  | [] => false
  | first :: rest => isNameChar true first && rest.all (isNameChar false)

/-- A group whose bracket is still open, or the whole pattern. -/
structure Level where
  number : Option Nat := none
  /-- The flags that hold again behind the group. -/
  outerFlags : Flags := {}
  /-- The alternatives that are finished, last first. -/
  finished : List Pattern := []
  /-- The parts of the alternative being read, last first; `none` where flags were set. -/
  parts : List (Option Pattern) := []
  deriving Inhabited

namespace Level

/-- Adds a part to the alternative being read. -/
def add (level : Level) (part : Pattern) : Level :=
  { level with parts := some part :: level.parts }

/-- The pattern of parts, last first. -/
def joined (parts : List (Option Pattern)) : Pattern :=
  match parts.reverse.map fun part => part.getD (.sequence []) with
  | [part] => part
  | parts => .sequence parts

/-- Goes on to the next alternative. -/
def alternate (level : Level) : Level :=
  { level with finished := joined level.parts :: level.finished, parts := [] }

/-- The pattern read so far. -/
def pattern (level : Level) : Pattern :=
  match level.finished with
  | [] => joined level.parts
  | finished => .choice (joined level.parts :: finished).reverse

end Level

/-- A pattern that is being read. -/
structure State where
  flags : Flags
  level : Level := {}
  outer : List Level := []
  /-- How many groups were numbered. -/
  groups : Nat := 0
  names : List (List Char) := []
  rest : Rest
  deriving Inhabited

def State.enter (state : State) (number : Option Nat) (flags : Flags) (rest : Rest) : State :=
  { state with
    flags := flags
    level := { number := number, outerFlags := state.flags }
    outer := state.level :: state.outer
    groups := state.groups + (if number.isSome then 1 else 0)
    rest := rest }

/-- Reads the start of a group with a name, behind the angle bracket. -/
def namedGroup (state : State) (rest : Rest) : Except PatternError State :=
  let name := rest.takeWhile (· != '>')
  match rest.dropWhile (· != '>') with
  | [] => .error .malformed
  | _ :: after =>
    if !isGroupName name || state.names.contains name then .error .malformed
    else
      let state := { state with names := name :: state.names }
      .ok (state.enter (some (state.groups + 1)) state.flags after)

/-- Reads flags, which hold for the rest of the open group, or up to a colon and then for a group
of their own. -/
def flagGroup (state : State) (rest : Rest) : Except PatternError State :=
  let items := rest.takeWhile fun c => c != ':' && c != ')'
  match rest.dropWhile (fun c => c != ':' && c != ')'), setFlags state.flags true [] items with
  | ':' :: after, some flags => .ok (state.enter none flags after)
  | ')' :: after, some flags =>
    if items.isEmpty then .error .malformed
    else
      .ok { state with
        flags := flags
        level := { state.level with parts := none :: state.level.parts }
        rest := after }
  | _, _ => .error .malformed

/-- Reads the start of a group behind its bracket. Looking around is not supported. -/
def openGroup (state : State) (rest : Rest) : Except PatternError State :=
  match skip state.flags rest with
  | '?' :: 'P' :: '<' :: rest => namedGroup state rest
  | '?' :: '<' :: '=' :: _ => .error .malformed
  | '?' :: '<' :: '!' :: _ => .error .malformed
  | '?' :: '<' :: rest => namedGroup state rest
  | '?' :: '=' :: _ => .error .malformed
  | '?' :: '!' :: _ => .error .malformed
  | '?' :: rest => flagGroup state rest
  | rest => .ok (state.enter (some (state.groups + 1)) state.flags rest)

def closeGroup (state : State) (rest : Rest) : Except PatternError State :=
  match state.outer with
  | [] => .error .malformed
  | level :: outer =>
    .ok { state with
      flags := state.level.outerFlags
      level := level.add (.group state.level.number state.level.pattern)
      outer := outer
      rest := rest }

def repeatLast (state : State) (least : Nat) (most : Option Nat) (rest : Rest) :
    Except PatternError State :=
  match state.level.parts with
  | some part :: parts =>
    let (greedy, rest) := match rest with
      | '?' :: rest => (false, rest)
      | rest => (true, rest)
    let part := .repeated part least most (greedy != state.flags.lazyFirst)
    .ok { state with level := { state.level with parts := some part :: parts }, rest := rest }
  | _ => .error .malformed

def addPart (state : State) (part : Pattern) (rest : Rest) : State :=
  { state with level := state.level.add part, rest := rest }

/-- The set of the characters that a point matches. -/
def dotSet (flags : Flags) : Except PatternError CharSet :=
  if !flags.unicode then .error .malformed
  else if flags.dotAll then .ok .all
  else if flags.carriageReturns then .ok (.complement (.union (.single '\r') (.single '\n')))
  else .ok (.complement (.single '\n'))

/-- What a circumflex means. -/
def startTest (flags : Flags) : Assertion :=
  if !flags.multiLine then .textStart
  else if flags.carriageReturns then .breakStart
  else .lineStart

/-- What a dollar sign means. -/
def endTest (flags : Flags) : Assertion :=
  if !flags.multiLine then .textEnd
  else if flags.carriageReturns then .breakEnd
  else .lineEnd

/-- Reads the next part of a pattern, which begins with `c`. -/
def step (state : State) (c : Char) (rest : Rest) : Except PatternError State :=
  match c with
  | '(' => openGroup state rest
  | ')' => closeGroup state rest
  | '|' => .ok { state with level := state.level.alternate, rest := rest }
  | '[' => do
    let (read, rest) ← readClass state.flags rest
    .ok (addPart state (.set read.members read.nesting) rest)
  | '?' => repeatLast state 0 (some 1) rest
  | '*' => repeatLast state 0 none rest
  | '+' => repeatLast state 1 none rest
  | '\x7b' => do
    let ((least, most), rest) ← repetitionBounds state.flags rest
    repeatLast state least most (skip state.flags rest)
  | '\\' => do
    let (escape, rest) ← escape state.flags rest
    match escape with
    | .literal c => .ok (addPart state (.set (foldSet state.flags (.single c)) 0) rest)
    | .set members => .ok (addPart state (.set members 0) rest)
    | .assertion test => .ok (addPart state (.assertion test) rest)
  | '.' => do .ok (addPart state (.set (← dotSet state.flags) 0) rest)
  | '^' => .ok (addPart state (.assertion (startTest state.flags)) rest)
  | '$' => .ok (addPart state (.assertion (endTest state.flags)) rest)
  | c => .ok (addPart state (.set (foldSet state.flags (.single c)) 0) rest)

/-- Reads the rest of a pattern. -/
def finish (state : State) : Except PatternError Pattern :=
  match skip state.flags state.rest with
  | [] => if state.outer.isEmpty then .ok state.level.pattern else .error .malformed
  | c :: rest =>
    match step state c rest with
    | .error e => .error e
    | .ok next =>
      if _h : next.rest.length < state.rest.length then finish next else .error .malformed
termination_by state.rest.length

end Reader

def parse (flags : Flags) (text : String) : Except PatternError Pattern := do
  let pattern ← Reader.finish { flags := flags, rest := text.toList }
  if pattern.depth > depthLimit then .error .malformed
  else if pattern.normal.isTooLarge then .error .tooLarge
  else .ok pattern.normal

/-- The flags that letters stand for. -/
def flagsOf (flags : Flags) : List Char → Except PatternError Flags
  | [] => .ok flags
  | 'i' :: rest => flagsOf { flags with ignoreCase := true } rest
  | 'm' :: rest => flagsOf { flags with multiLine := true } rest
  | 's' :: rest => flagsOf { flags with dotAll := true } rest
  | 'x' :: rest => flagsOf { flags with spaced := true } rest
  | other :: _ => .error (.unsupportedFlag other)

end Pattern

end BrightScript
