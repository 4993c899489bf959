import BrightScript.Decimal.Read
import BrightScript.Token.Basic

/-!
Scanning: cutting a source text into tokens. Between tokens stand only spaces and tabs. Where no
token starts, an error is recorded at the furthest character that some rule could not accept, and
scanning goes on with the next place at which a token does start.
-/

namespace BrightScript.Scanner

/-- Why no token starts at a place. -/
inductive Cause where
  /-- A character, or the end of the text, that no rule accepts. -/
  | unexpected
  /-- A hexadecimal literal that does not fit 64 bits. -/
  | hexTooLarge
  deriving DecidableEq, Repr

/-- The outcome of looking for a token: its text `taken` off the input, or how many bytes further
on the rules gave up. -/
inductive Outcome where
  | hit (token : Token) (taken rest : List Char)
  | miss (ahead : Nat) (cause : Cause)
  deriving DecidableEq, Repr

/-- Spaces and tabs, which may stand between tokens. -/
def isInlineBlank (c : Char) : Bool := c == ' ' || c == '\t'

/-- The characters that start an identifier. -/
def isWordStart (c : Char) : Bool := c.isAlpha || c == '_'

/-- The characters that continue an identifier. -/
def isWordChar (c : Char) : Bool := c.isAlphanum || c == '_'

/-- The characters that end a comment or an unfinished text. -/
def isLineEnd (c : Char) : Bool := c == '\n' || c == '\r'

/-- The characters that are a line break on their own. -/
def isLineBreak (c : Char) : Bool :=
  c == '\n' || c == '\r' || c == '\x0b' || c == '\x0c' || c == '\u0085' || c == '\u2028' ||
    c == '\u2029'

/-- The marks that may close an identifier. -/
def isTypeMark (c : Char) : Bool := c == '$' || c == '%' || c == '!' || c == '#' || c == '&'

/-- Hexadecimal digits. -/
def isHexDigit (c : Char) : Bool :=
  c.isDigit || ('a' ≤ c && c ≤ 'f') || ('A' ≤ c && c ≤ 'F')

def hexValue (c : Char) : Nat :=
  if c.isDigit then c.toNat - '0'.toNat
  else if 'a' ≤ c then c.toNat - 'a'.toNat + 10
  else c.toNat - 'A'.toNat + 10

/-- The number written by hexadecimal digits. -/
def readHex (digits : List Char) : Nat :=
  digits.foldl (fun total c => 16 * total + hexValue c) 0

/-- Integer literals lie below this bound. -/
def integerBound : Nat := 0x8000000000000000

/-- A comment up to the end of the line, after its opening characters. -/
def comment (opening rest : List Char) : Outcome :=
  .hit .comment (opening ++ rest.takeWhile (!isLineEnd ·)) (rest.dropWhile (!isLineEnd ·))

/-- The type mark at the front of a text, if there is one. -/
def typeMark : List Char → List Char
  | c :: _ => if isTypeMark c then [c] else []
  | [] => []

/-- The token of a word: reserved words win over identifiers. -/
def wordToken (spelling : String) : Token :=
  match Keyword.ofWord? spelling with
  | some keyword => .keyword keyword
  | none => .identifier spelling

/-- A word: the longest run of word characters with an optional type mark. -/
def word (chars : List Char) : Outcome :=
  let name := chars.takeWhile isWordChar
  let rest := chars.dropWhile isWordChar
  let taken := name ++ typeMark rest
  .hit (wordToken (String.ofList taken)) taken (rest.drop (typeMark rest).length)

/-- A word, unless it is the `rem` that opens a comment. -/
def wordOrComment (chars : List Char) : Outcome :=
  match chars with
  | r :: e :: m :: rest =>
    if Name.key (String.ofList [r, e, m]) = "rem" && !(rest.head?.any isWordChar) then
      comment [r, e, m] rest
    else word chars
  | _ => word chars

/-- A directive, after its `#`. -/
def directive (rest : List Char) : Outcome :=
  if rest.head?.any isWordStart then
    let name := rest.takeWhile isWordChar
    .hit (.directive (Name.key (String.ofList name))) ('#' :: name) (rest.dropWhile isWordChar)
  else .miss 1 .unexpected

/-- A hexadecimal literal, after its `&`. -/
def hexadecimal (rest : List Char) : Outcome :=
  match rest with
  | h :: tail =>
    if h == 'h' || h == 'H' then
      let digits := tail.takeWhile isHexDigit
      if digits.isEmpty then .miss 2 .unexpected
      else if readHex digits < integerBound then
        .hit (.integer (Int64.ofNat (readHex digits))) ('&' :: h :: digits)
          (tail.dropWhile isHexDigit)
      else .miss 0 .hexTooLarge
    else .miss 1 .unexpected
  | [] => .miss 1 .unexpected

/-- The whole number at the front of a text that starts with a digit: a lone zero, or all digits. -/
def wholeDigits : List Char → List Char
  | '0' :: _ => ['0']
  | chars => chars.takeWhile Char.isDigit

/-- An integer literal; `reach` bytes were read in vain for a literal with a fraction. -/
def integer (whole rest : List Char) (reach : Nat) : Outcome :=
  let value := Decimal.readDigits 0 whole
  if value < integerBound then .hit (.integer (Int64.ofNat value)) whole rest
  else .miss reach .unexpected

/-- A number: with a fraction where digits follow the point, and otherwise an integer. -/
def number (chars : List Char) : Outcome :=
  let whole := wholeDigits chars
  let rest := chars.drop whole.length
  match rest with
  | '.' :: tail =>
    let fraction := tail.takeWhile Char.isDigit
    if fraction.isEmpty then integer whole rest (whole.length + 1)
    else
      .hit (.float (Decimal.ofParts false whole fraction 0)) (whole ++ '.' :: fraction)
        (tail.dropWhile Char.isDigit)
  | _ => integer whole rest whole.length

/-- The rest of a text literal, after the characters read so far: its value, what it took and what
follows, or how far it went before the line ended. A doubled quote stands for one. -/
def quoted (value taken : List Char) : List Char → Outcome
  | '"' :: '"' :: rest => quoted ('"' :: value) ('"' :: '"' :: taken) rest
  | '"' :: rest =>
    .hit (.text (String.ofList value.reverse)) ('"' :: taken).reverse rest
  | c :: rest =>
    if isLineEnd c then .miss (byteSize taken) .unexpected
    else quoted (c :: value) (c :: taken) rest
  | [] => .miss (byteSize taken) .unexpected

/-- A comparison sign, a line break or a symbol of one character. -/
def symbol (c : Char) (rest : List Char) : Outcome :=
  let one (symbol : Symbol) : Outcome := .hit (.symbol symbol) [c] rest
  match c, rest with
  | '<', '>' :: tail => .hit (.symbol .notEqual) ['<', '>'] tail
  | '>', '=' :: tail => .hit (.symbol .greaterOrEqual) ['>', '='] tail
  | '<', '=' :: tail => .hit (.symbol .lessOrEqual) ['<', '='] tail
  | '\r', '\n' :: tail => .hit .newline ['\r', '\n'] tail
  | '>', _ => one .greater
  | '<', _ => one .less
  | '=', _ => one .equal
  | '(', _ => one .roundOpen
  | ')', _ => one .roundClose
  | '[', _ => one .squareOpen
  | ']', _ => one .squareClose
  | '\x7b', _ => one .curlyOpen
  | '\x7d', _ => one .curlyClose
  | ':', _ => one .colon
  | ';', _ => one .semicolon
  | ',', _ => one .comma
  | '.', _ => one .dot
  | '-', _ => one .minus
  | '+', _ => one .plus
  | '*', _ => one .asterisk
  | '/', _ => one .slash
  | _, _ => if isLineBreak c then .hit .newline [c] rest else .miss 0 .unexpected

/-- The token at the front of a text. The first character decides which rule applies. -/
def token : List Char → Outcome
  | [] => .miss 0 .unexpected
  | c :: rest =>
    if c == '\'' then comment [c] rest
    else if c == '#' then directive rest
    else if c == '&' then hexadecimal rest
    else if c == '"' then quoted [] ['"'] rest
    else if c.isDigit then number (c :: rest)
    else if isWordStart c then wordOrComment (c :: rest)
    else symbol c rest

/-- A scan error: where the furthest rule gave up, and why. -/
structure Error where
  span : Span
  found : Option Char
  cause : Cause
  deriving DecidableEq, Repr

/-- The wording of a scan error. -/
def Error.message (error : Error) : String :=
  match error.cause, error.found with
  | .hexTooLarge, _ => "Invalid hex literal: number too large to fit in target type"
  | .unexpected, some c => "found '" ++ String.singleton c ++ "'"
  | .unexpected, none => "found end of input"

/-- The characters from a given number of bytes onwards. -/
def dropBytes : Nat → List Char → List Char
  | 0, chars => chars
  | _, [] => []
  | bytes + 1, c :: rest => dropBytes (bytes + 1 - c.utf8Size) rest
termination_by _ chars => chars.length

/-- The error for rules that gave up `ahead` bytes after `offset`, where `chars` begins. -/
def errorAt (offset : Nat) (chars : List Char) (ahead : Nat) (cause : Cause) : Error :=
  let found := (dropBytes ahead chars).head?
  let start := offset + ahead
  ⟨⟨start, start + (found.map Char.utf8Size).getD 0⟩, found, cause⟩

/-- A scanned text: its tokens, comments included, and the errors met. -/
structure Scan where
  lexemes : List Lexeme
  errors : List Error
  deriving DecidableEq, Repr

/-- The first token in or after `chars`, which begin at `offset`, with the place behind it. -/
def resume (offset : Nat) : List Char → Option (Lexeme × Nat × List Char)
  | [] => none
  | c :: rest =>
    match token (c :: rest) with
    | .hit token taken after =>
      let stop := offset + byteSize taken
      some (⟨token, ⟨offset, stop⟩⟩, stop, after)
    | .miss _ _ => resume (offset + c.utf8Size) rest

/-- A hit splits the input into a text that is not empty and what follows it. -/
def Outcome.Splits (chars : List Char) : Outcome → Prop
  | .hit _ taken rest => chars = taken ++ rest ∧ taken ≠ []
  | .miss _ _ => True

theorem comment_splits (opening rest : List Char) (h : opening ≠ []) :
    (comment opening rest).Splits (opening ++ rest) := by
  simp [comment, Outcome.Splits, h]

theorem typeMark_append_drop (chars : List Char) :
    typeMark chars ++ chars.drop (typeMark chars).length = chars := by
  cases chars with
  | nil => rfl
  | cons c rest => by_cases h : isTypeMark c <;> simp [typeMark, h]

theorem word_splits {c : Char} (rest : List Char) (h : isWordChar c) :
    (word (c :: rest)).Splits (c :: rest) := by
  simp only [word, Outcome.Splits, List.append_assoc, typeMark_append_drop,
    List.takeWhile_append_dropWhile, true_and]
  simp [h]

theorem wordOrComment_splits {c : Char} (rest : List Char) (h : isWordChar c) :
    (wordOrComment (c :: rest)).Splits (c :: rest) := by
  unfold wordOrComment
  split
  · rename_i r e m tail heq
    split
    · rw [heq]
      exact comment_splits [r, e, m] tail (by simp)
    · exact word_splits rest h
  · exact word_splits rest h

theorem directive_splits (rest : List Char) : (directive rest).Splits ('#' :: rest) := by
  unfold directive
  split <;> simp [Outcome.Splits]

theorem hexadecimal_splits (rest : List Char) : (hexadecimal rest).Splits ('&' :: rest) := by
  unfold hexadecimal
  split
  · dsimp only
    split
    · split
      · trivial
      · split
        · simp [Outcome.Splits]
        · trivial
    · trivial
  · trivial

theorem wholeDigits_initial (chars : List Char) : wholeDigits chars <+: chars := by
  unfold wholeDigits
  split
  · simp
  · exact List.takeWhile_prefix _

theorem wholeDigits_append_drop (chars : List Char) :
    wholeDigits chars ++ chars.drop (wholeDigits chars).length = chars :=
  List.prefix_iff_eq_append.1 (wholeDigits_initial chars)

theorem wholeDigits_ne_nil {c : Char} (rest : List Char) (h : c.isDigit) :
    wholeDigits (c :: rest) ≠ [] := by
  unfold wholeDigits
  split <;> simp [h]

theorem integer_splits {whole : List Char} (rest : List Char) (reach : Nat) (h : whole ≠ []) :
    (integer whole rest reach).Splits (whole ++ rest) := by
  unfold integer
  dsimp only
  split
  · exact ⟨rfl, h⟩
  · trivial

theorem number_splits {c : Char} (rest : List Char) (h : c.isDigit) :
    (number (c :: rest)).Splits (c :: rest) := by
  have hne := wholeDigits_ne_nil rest h
  have hsplit := wholeDigits_append_drop (c :: rest)
  unfold number
  dsimp only
  split
  · rename_i tail heq
    rw [heq] at hsplit
    split
    · have hint := integer_splits ('.' :: tail) ((wholeDigits (c :: rest)).length + 1) hne
      rw [hsplit] at hint
      rwa [heq]
    · exact ⟨by simp [hsplit], by simp⟩
  · have hint := integer_splits ((c :: rest).drop (wholeDigits (c :: rest)).length)
      (wholeDigits (c :: rest)).length hne
    rwa [hsplit] at hint

theorem quoted_splits (value taken rest : List Char) (h : taken ≠ []) :
    (quoted value taken rest).Splits (taken.reverse ++ rest) := by
  fun_induction quoted value taken rest with
  | case1 value taken rest ih => simpa using ih (by simp)
  | case2 value taken rest => exact ⟨by simp, by simp⟩
  | case3 => trivial
  | case4 value taken c rest _ _ _ ih => simpa using ih (by simp)
  | case5 => trivial

theorem symbol_splits (c : Char) (rest : List Char) : (symbol c rest).Splits (c :: rest) := by
  unfold symbol
  dsimp only
  split <;> first
    | exact ⟨rfl, by simp⟩
    | split
      · exact ⟨rfl, by simp⟩
      · trivial

/-- A token takes a non-empty text off the front of the input. -/
theorem token_splits (chars : List Char) : (token chars).Splits chars := by
  unfold token
  split
  · trivial
  · rename_i c rest
    repeat' split
    · exact comment_splits [c] rest (by simp)
    · simp_all only [beq_iff_eq]
      exact directive_splits rest
    · simp_all only [beq_iff_eq]
      exact hexadecimal_splits rest
    · rename_i hquote
      have hc : c = '"' := by simpa using hquote
      subst hc
      exact quoted_splits [] ['"'] rest (by simp)
    · rename_i hdigit
      exact number_splits rest hdigit
    · rename_i hword
      refine wordOrComment_splits rest ?_
      simp only [isWordStart, isWordChar, Char.isAlphanum, Bool.or_eq_true] at hword ⊢
      exact hword.imp_left Or.inl
    · exact symbol_splits c rest

theorem resume_length_lt {offset stop : Nat} {chars after : List Char} {lexeme : Lexeme}
    (h : resume offset chars = some (lexeme, stop, after)) : after.length < chars.length := by
  induction chars generalizing offset with
  | nil => simp [resume] at h
  | cons c rest ih =>
    unfold resume at h
    split at h
    · rename_i found taken tail heq
      have hsplit := token_splits (c :: rest)
      rw [heq] at hsplit
      obtain ⟨happend, hne⟩ := hsplit
      simp only [Option.some.injEq, Prod.mk.injEq] at h
      obtain ⟨-, -, rfl⟩ := h
      rw [happend, List.length_append]
      have := List.length_pos_iff.2 hne
      omega
    · have := ih h
      simp only [List.length_cons]
      omega

/-- Scans the characters from `offset` on. After an error, scanning resumes with the next token. -/
def scanFrom (offset : Nat) (chars : List Char) : Scan :=
  match chars with
  | [] => ⟨[], []⟩
  | c :: rest =>
    if isInlineBlank c then scanFrom (offset + c.utf8Size) rest
    else
      match _htoken : token (c :: rest) with
      | .hit token taken after =>
        let stop := offset + byteSize taken
        let scan := scanFrom stop after
        ⟨⟨token, ⟨offset, stop⟩⟩ :: scan.lexemes, scan.errors⟩
      | .miss ahead cause =>
        let error := errorAt offset (c :: rest) ahead cause
        -- what is skipped on the way to the next token is no error of its own
        match _hresume : resume (offset + c.utf8Size) rest with
        | some (lexeme, stop, after) =>
          let scan := scanFrom stop after
          ⟨lexeme :: scan.lexemes, error :: scan.errors⟩
        | none => ⟨[], [error]⟩
termination_by chars.length
decreasing_by
  · simp
  · have hsplit := token_splits (c :: rest)
    rw [_htoken] at hsplit
    obtain ⟨happend, hne⟩ := hsplit
    rw [happend, List.length_append]
    have := List.length_pos_iff.2 hne
    omega
  · have := resume_length_lt _hresume
    simp only [List.length_cons]
    omega

/-- Scans a whole text. A text of blanks alone has no token to end it. -/
def scan (text : String) : Scan :=
  let chars := text.toList
  if !chars.isEmpty && chars.all isInlineBlank then
    ⟨[], [errorAt (byteSize chars) [] 0 .unexpected]⟩
  else scanFrom 0 chars

end BrightScript.Scanner
