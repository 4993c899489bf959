import BrightScript.Syntax.Grammar

/-!
A canonical way to write programs as token lists. Every statement and every header ends with a line
break, a statement that is an expression stands in brackets, and inside expressions a part stands in
brackets only where it binds too weakly for its place.
-/

namespace BrightScript

def Literal.token : Literal → Token
  | .boolean true => .keyword .true
  | .boolean false => .keyword .false
  | .integer value => .integer value
  | .float value => .float value
  | .text value => .text value
  | .invalid => .keyword .invalid

namespace BinaryOperator

def token : BinaryOperator → Token
  | .or => .keyword .or
  | .and => .keyword .and
  | .equal => .symbol .equal
  | .notEqual => .symbol .notEqual
  | .less => .symbol .less
  | .lessOrEqual => .symbol .lessOrEqual
  | .greater => .symbol .greater
  | .greaterOrEqual => .symbol .greaterOrEqual
  | .add => .symbol .plus
  | .subtract => .symbol .minus
  | .multiply => .symbol .asterisk
  | .divide => .symbol .slash

/-- How tightly a binary operator binds. -/
def power : BinaryOperator → Nat
  | .or => 1
  | .and => 2
  | .equal | .notEqual | .less | .lessOrEqual | .greater | .greaterOrEqual => 4
  | .add | .subtract => 5
  | .multiply | .divide => 6

end BinaryOperator

namespace UnaryOperator

def token : UnaryOperator → Token
  | .not => .keyword .not
  | .negate => .symbol .minus

/-- How tightly a unary operator binds. -/
def power : UnaryOperator → Nat
  | .not => 3
  | .negate => 7

end UnaryOperator

/-- Operands without operators bind more tightly than every operator. -/
def Expression.operandPower : Nat := 8

theorem BinaryOperator.power_lt (operator : BinaryOperator) :
    operator.power < Expression.operandPower := by
  cases operator <;> decide

theorem UnaryOperator.power_lt (operator : UnaryOperator) :
    operator.power < Expression.operandPower := by
  cases operator <;> decide

/-- How tightly an expression holds together. -/
def Expression.power : Expression → Nat
  | .binary _ operator _ _ => operator.power
  | .unary _ operator _ => operator.power
  | _ => operandPower

namespace Printer

def bracketed (tokens : List Token) : List Token :=
  .symbol .roundOpen :: (tokens ++ [.symbol .roundClose])

/-- The tokens of an expression at a place that asks for at least a power. -/
def grouped (least power : Nat) (tokens : List Token) : List Token :=
  if power < least then bracketed tokens else tokens

mutual

def expression : Expression → List Token
  | .literal _ value => [value.token]
  | .variable _ name => [.identifier name]
  | .array _ items => .symbol .squareOpen :: (listed items ++ [.symbol .squareClose])
  | .table _ fields => .symbol .curlyOpen :: (entries fields ++ [.symbol .curlyClose])
  | .call _ callee arguments =>
    grouped Expression.operandPower callee.power (expression callee) ++
      bracketed (listed arguments)
  | .member _ object name =>
    grouped Expression.operandPower object.power (expression object) ++
      [.symbol .dot, .identifier name]
  | .binary _ operator left right =>
    grouped operator.power left.power (expression left) ++
      (operator.token :: grouped (operator.power + 1) right.power (expression right))
  | .unary _ operator operand =>
    operator.token :: grouped operator.power operand.power (expression operand)

/-- Writes expressions with commas between them. -/
def listed : List Expression → List Token
  | [] => []
  | item :: items => expression item ++ further items

/-- Writes expressions with a comma before each of them. -/
def further : List Expression → List Token
  | [] => []
  | item :: items => .symbol .comma :: (expression item ++ further items)

/-- Writes the entries of a table with commas between them. -/
def entries : List (String × Expression) → List Token
  | [] => []
  | (key, value) :: fields => .text key :: .symbol .colon :: (expression value ++
      furtherEntries fields)

/-- Writes the entries of a table with a comma before each of them. -/
def furtherEntries : List (String × Expression) → List Token
  | [] => []
  | (key, value) :: fields => .symbol .comma :: .text key :: .symbol .colon ::
      (expression value ++ furtherEntries fields)

end

/-- Writes an expression at a place that asks for at least a power. -/
def operand (least : Nat) (value : Expression) : List Token :=
  grouped least value.power (expression value)

def entry (field : String × Expression) : List Token :=
  .text field.1 :: .symbol .colon :: expression field.2

/-- Writes things with commas between them. -/
def separated {α : Type} (write : α → List Token) : List α → List Token
  | [] => []
  | item :: items => write item ++ items.flatMap fun item => .symbol .comma :: write item

/-- Writes the fields of a component, each on a line of its own. -/
def fields (members : List (String × Expression)) : List Token :=
  members.flatMap fun member =>
    .keyword .field :: .identifier member.1 :: .symbol .equal :: (expression member.2 ++ [.newline])

/-- Writes the kind that a component extends. -/
def base : Option String → List Token
  | none => []
  | some name => [.keyword .extends, .text name]

/-- The word that opens and closes a function. -/
def functionWord (isSub : Bool) : Keyword := if isSub then .sub else .function

mutual

def statement : Statement → List Token
  | .library _ path => [.keyword .library, .text path]
  | .print _ values => .keyword .print :: listed values
  | .assign _ name value => .identifier name :: .symbol .equal :: expression value
  | .assignMember _ object name value =>
    operand Expression.operandPower object ++
      (.symbol .dot :: .identifier name :: .symbol .equal :: expression value)
  | .expression _ value => bracketed (expression value)
  | .conditional _ branches rest =>
    .keyword .if :: (choices branches ++ (otherwise rest ++ [.keyword .end, .keyword .if]))
  | .function _ name parameters body isSub =>
    .keyword (functionWord isSub) :: .identifier name ::
      (bracketed (separated (fun name => [.identifier name]) parameters) ++
        (.newline :: (lines body ++ [.keyword .end, .keyword (functionWord isSub)])))
  | .return _ none => [.keyword .return]
  | .return _ (some value) => .keyword .return :: expression value
  | .component _ name extended members =>
    .keyword .component :: .text name :: (base extended ++
      (.newline :: (fields members ++ [.keyword .end, .keyword .component])))

/-- Writes statements, each with a line break behind it. -/
def lines : List Statement → List Token
  | [] => []
  | first :: others => statement first ++ (.newline :: lines others)

/-- Writes the branches of a conditional statement behind its first word. -/
def choices : List (Expression × List Statement) → List Token
  | [] => []
  | (condition, body) :: others =>
    expression condition ++ (.keyword .then :: .newline :: (lines body ++ furtherChoices others))

/-- Writes the branches of a conditional statement behind the first. -/
def furtherChoices : List (Expression × List Statement) → List Token
  | [] => []
  | (condition, body) :: others =>
    .keyword .elseIf :: (expression condition ++
      (.keyword .then :: .newline :: (lines body ++ furtherChoices others)))

/-- Writes what is done where no condition holds. -/
def otherwise : Option (List Statement) → List Token
  | none => []
  | some body => .keyword .else :: .newline :: lines body

end

theorem further_eq_flatMap (items : List Expression) :
    further items = items.flatMap fun item => .symbol .comma :: expression item := by
  induction items with
  | nil => rw [further, List.flatMap_nil]
  | cons item items ih => rw [further, ih, List.flatMap_cons, List.cons_append]

theorem listed_eq_separated (items : List Expression) :
    listed items = separated expression items := by
  cases items with
  | nil => rw [listed, separated]
  | cons item items => rw [listed, separated, further_eq_flatMap]

theorem furtherEntries_eq_flatMap (members : List (String × Expression)) :
    furtherEntries members = members.flatMap fun member => .symbol .comma :: entry member := by
  induction members with
  | nil => rw [furtherEntries, List.flatMap_nil]
  | cons member members ih =>
      rw [furtherEntries, ih, List.flatMap_cons, entry]
      rfl

theorem entries_eq_separated (members : List (String × Expression)) :
    entries members = separated entry members := by
  cases members with
  | nil => rw [entries, separated]
  | cons member members =>
      rw [entries, separated, furtherEntries_eq_flatMap, entry]
      rfl

/-- Writes a branch of a conditional statement behind its word. -/
def branch (condition : Expression) (body : List Statement) : List Token :=
  expression condition ++ (.keyword .then :: .newline :: lines body)

theorem choices_cons (condition : Expression) (body : List Statement)
    (others : List (Expression × List Statement)) :
    choices ((condition, body) :: others) = branch condition body ++ furtherChoices others := by
  rw [choices, branch, List.append_assoc]
  rfl

theorem furtherChoices_cons (condition : Expression) (body : List Statement)
    (others : List (Expression × List Statement)) :
    furtherChoices ((condition, body) :: others) =
      .keyword .elseIf :: (branch condition body ++ furtherChoices others) := by
  rw [furtherChoices, branch, List.append_assoc]
  rfl

end Printer

/-- Whether an expression is a path of members from a variable. -/
def Expression.isPath : Expression → Bool
  | .variable _ _ => true
  | .member _ object _ => object.isPath
  | _ => false

theorem Expression.operandPower_le_of_isPath {value : Expression} (hpath : value.isPath = true) :
    operandPower ≤ value.power := by
  cases value with
  | «variable» | member => exact Nat.le_refl _
  | _ => cases hpath

namespace Statement

mutual

/-- Whether a statement can be written: its libraries are known, a conditional statement has a
branch, and a member that is assigned to is reached by a path from a variable. -/
def isWritable : Statement → Bool
  | .library _ path => (Library.ofPath? path).isSome
  | .assignMember _ object _ _ => object.isPath
  | .conditional _ branches otherwise =>
    !branches.isEmpty && (areBranchesWritable branches && isOtherwiseWritable otherwise)
  | .function _ _ _ body _ => areWritable body
  | .print .. | .assign .. | .expression .. | .return .. | .component .. => true

/-- Whether statements can be written. -/
def areWritable : List Statement → Bool
  | [] => true
  | first :: others => first.isWritable && areWritable others

/-- Whether the branches of a conditional statement can be written. -/
def areBranchesWritable : List (Expression × List Statement) → Bool
  | [] => true
  | (_, body) :: others => areWritable body && areBranchesWritable others

/-- Whether the last part of a conditional statement can be written. -/
def isOtherwiseWritable : Option (List Statement) → Bool
  | none => true
  | some body => areWritable body

end

end Statement

/-- The place of nothing. -/
def Span.none : Span := ⟨0, 0⟩

namespace Expression

mutual

/-- An expression without the places of its parts. -/
def bare : Expression → Expression
  | .literal _ value => .literal .none value
  | .variable _ name => .variable .none name
  | .array _ items => .array .none (bareAll items)
  | .table _ entries => .table .none (bareEntries entries)
  | .call _ callee arguments => .call .none callee.bare (bareAll arguments)
  | .member _ object name => .member .none object.bare name
  | .binary _ operator left right => .binary .none operator left.bare right.bare
  | .unary _ operator operand => .unary .none operator operand.bare

def bareAll : List Expression → List Expression
  | [] => []
  | item :: items => item.bare :: bareAll items

def bareEntries : List (String × Expression) → List (String × Expression)
  | [] => []
  | (name, value) :: entries => (name, value.bare) :: bareEntries entries

end

theorem bareAll_eq_map (items : List Expression) : bareAll items = items.map bare := by
  induction items with
  | nil => rw [bareAll, List.map_nil]
  | cons item items ih => rw [bareAll, ih, List.map_cons]

theorem bareEntries_eq_map (entries : List (String × Expression)) :
    bareEntries entries = entries.map fun entry => (entry.1, entry.2.bare) := by
  induction entries with
  | nil => rw [bareEntries, List.map_nil]
  | cons entry entries ih => rw [bareEntries, ih, List.map_cons]

end Expression

namespace Statement

mutual

/-- A statement without the places of its parts. -/
def bare : Statement → Statement
  | .library _ path => .library .none path
  | .print _ values => .print .none (values.map Expression.bare)
  | .assign _ name value => .assign .none name value.bare
  | .assignMember _ object name value => .assignMember .none object.bare name value.bare
  | .expression _ value => .expression .none value.bare
  | .conditional _ branches otherwise =>
    .conditional .none (bareBranches branches) (bareOtherwise otherwise)
  | .function _ name parameters body isSub => .function .none name parameters (bareAll body) isSub
  | .return _ value => .return .none (value.map Expression.bare)
  | .component _ name base fields =>
    .component .none name base (fields.map fun field => (field.1, field.2.bare))

def bareAll : List Statement → List Statement
  | [] => []
  | first :: others => first.bare :: bareAll others

/-- The branches of a conditional statement without the places of their parts. -/
def bareBranches : List (Expression × List Statement) → List (Expression × List Statement)
  | [] => []
  | (condition, body) :: others => (condition.bare, bareAll body) :: bareBranches others

/-- The last part of a conditional statement without the places of its parts. -/
def bareOtherwise : Option (List Statement) → Option (List Statement)
  | none => none
  | some body => some (bareAll body)

end

theorem bareAll_eq_map (statements : List Statement) :
    bareAll statements = statements.map bare := by
  induction statements with
  | nil => rw [bareAll, List.map_nil]
  | cons first others ih => rw [bareAll, ih, List.map_cons]

theorem bareBranches_eq_map (branches : List (Expression × List Statement)) :
    bareBranches branches = branches.map fun branch => (branch.1.bare, branch.2.map bare) := by
  induction branches with
  | nil => rw [bareBranches, List.map_nil]
  | cons branch others ih => rw [bareBranches, ih, List.map_cons, bareAll_eq_map]

end Statement

end BrightScript
