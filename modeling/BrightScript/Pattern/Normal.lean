import BrightScript.Pattern.Basic

namespace BrightScript.Pattern

mutual

/-- Whether two patterns are written alike. -/
def same : Pattern → Pattern → Bool
  | .literal left, .literal right => left == right
  | .set left _, .set right _ => left == right
  | .assertion left, .assertion right => left == right
  | .group left inner, .group right inner' => left == right && same inner inner'
  | .sequence left, .sequence right => allSame left right
  | .choice left, .choice right => allSame left right
  | .repeated inner least most greedy, .repeated inner' least' most' greedy' =>
    least == least' && most == most' && greedy == greedy' && same inner inner'
  | _, _ => false

/-- Whether the patterns of two lists are written alike. -/
def allSame : List Pattern → List Pattern → Bool
  | [], [] => true
  | left :: lefts, right :: rights => same left right && allSame lefts rights
  | _, _ => false

end

/-- One character with a code point among `members`. If there is only one, it is a literal. -/
def ofCodes (members : Text.CodeTable) : Pattern :=
  match members.ranges.toList with
  | [range] =>
    if range.first = range.last then .literal [Char.ofNat range.first] else .set (.table members) 0
  | _ => .set (.table members) 0

/-- The parts of a pattern that follow each other. -/
def parts : Pattern → List Pattern
  | .sequence parts => parts
  | other => [other]

/-- Parts with neighbouring literals made one. -/
def joinLiterals : List Pattern → List Pattern
  | [] => []
  | part :: rest =>
    match part, joinLiterals rest with
    | .literal left, .literal right :: rest => .literal (left ++ right) :: rest
    | part, rest => part :: rest

/-- The patterns one after the other. -/
def sequenceOf (patterns : List Pattern) : Pattern :=
  match joinLiterals (patterns.flatMap parts) with
  | [part] => part
  | parts => .sequence parts

/-- The patterns that a pattern is a choice of. -/
def alternatives : Pattern → List Pattern
  | .choice alternatives => alternatives
  | other => [other]

/-- The code points of alternatives that are all literals of one character. -/
def charCodes? : List Pattern → Option (List Text.CodeRange)
  | [] => some []
  | .literal [c] :: rest => (charCodes? rest).map (⟨c.toNat, c.toNat⟩ :: ·)
  | _ :: _ => none

/-- The code points of alternatives that are all sets. -/
def setCodes? : List Pattern → Option (List Text.CodeRange)
  | [] => some []
  | .set members _ :: rest => (setCodes? rest).map (members.codes.ranges.toList ++ ·)
  | _ :: _ => none

/-- A choice in which alternatives that are choices give way to their own. Single characters become
a set, and so do sets. -/
def flatChoice (patterns : List Pattern) : Pattern :=
  match patterns.flatMap alternatives with
  | [only] => only
  | options =>
    match charCodes? options <|> setCodes? options with
    | some ranges => ofCodes (Text.CodeTable.ofRanges ranges)
    | none => .choice options

/-- The parts that two lists start with. -/
def sharedParts : List Pattern → List Pattern → List Pattern
  | left :: lefts, right :: rights => if same left right then left :: sharedParts lefts rights else []
  | _, _ => []

/-- The parts that alternatives start with, if each of them is a sequence. -/
def sharedStart : List Pattern → List Pattern
  | [.sequence parts] => parts
  | .sequence parts :: rest => sharedParts parts (sharedStart rest)
  | _ => []

/-- The choice of patterns. What all of them start with stands before the choice, so the way it is
matched is preferred before the alternative is. -/
def choiceOf (patterns : List Pattern) : Pattern :=
  match flatChoice patterns with
  | .choice options =>
    match sharedStart options with
    | [] => .choice options
    | start =>
      let rest := options.map fun option => sequenceOf (option.parts.drop start.length)
      sequenceOf (start ++ [flatChoice rest])
  | simple => simple

/-- A pattern repeated. What takes no character is repeated at most once. -/
def repeatedOf (inner : Pattern) (least : Nat) (most : Option Nat) (greedy : Bool) : Pattern :=
  let (least, most) :=
    if inner.isEmptyOnly then (min least 1, some (min (most.getD 1) 1)) else (least, most)
  if most = some 0 then .sequence []
  else if least = 1 && most = some 1 then inner
  else .repeated inner least most greedy

mutual

def normal : Pattern → Pattern
  | .literal chars => .literal chars
  | .set members _ => ofCodes members.codes
  | .assertion test => .assertion test
  | .group none inner => inner.normal
  | .group (some number) inner => .group (some number) inner.normal
  | .sequence parts => sequenceOf (normals parts)
  | .choice alternatives => choiceOf (normals alternatives)
  | .repeated inner least most greedy => repeatedOf inner.normal least most greedy

def normals : List Pattern → List Pattern
  | [] => []
  | part :: rest => part.normal :: normals rest

end

end BrightScript.Pattern
