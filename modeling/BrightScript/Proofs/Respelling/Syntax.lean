import BrightScript.Evaluator.Machine
import BrightScript.Proofs.Storage.Writing

namespace BrightScript

theorem Name.key_append (left right : String) : key (left ++ right) = key left ++ key right := by
  change (left ++ right).map Char.toLower = left.map Char.toLower ++ right.map Char.toLower
  apply String.ext
  simp only [String.toList_map, String.toList_append, List.map_append]

/-- A way to spell names, under which every name stays the same. -/
structure Respelling where
  apply : String → String
  key_apply : ∀ name, Name.key (apply name) = Name.key name

namespace Respelling

instance : CoeFun Respelling fun _ => String → String := ⟨apply⟩

/-- Every name as it is spelled. -/
def keep : Respelling := ⟨id, fun _ => rfl⟩

/-- Every name in lower case. -/
def lower : Respelling := ⟨Name.key, Name.key_key⟩

@[simp] theorem lower_apply (name : String) : lower name = Name.key name := rfl

end Respelling

namespace Expression

mutual

/-- The expression with its names respelled. -/
def respell (spelling : Respelling) : Expression → Expression
  | .literal span value => .literal span value
  | .variable span name => .variable span (spelling name)
  | .array span items => .array span (respellAll spelling items)
  | .table span entries => .table span (respellFields spelling entries)
  | .call span callee arguments =>
    .call span (respell spelling callee) (respellAll spelling arguments)
  | .member span object name => .member span (respell spelling object) (spelling name)
  | .binary span operator left right =>
    .binary span operator (respell spelling left) (respell spelling right)
  | .unary span operator operand => .unary span operator (respell spelling operand)

/-- The expressions with their names respelled. -/
def respellAll (spelling : Respelling) : List Expression → List Expression
  | [] => []
  | expression :: rest => respell spelling expression :: respellAll spelling rest

/-- The named expressions with the names in them respelled, but not their own names. -/
def respellFields (spelling : Respelling) :
    List (String × Expression) → List (String × Expression)
  | [] => []
  | (name, expression) :: rest =>
    (name, respell spelling expression) :: respellFields spelling rest

end

@[simp] theorem span_respell (spelling : Respelling) (expression : Expression) :
    (expression.respell spelling).span = expression.span := by
  cases expression <;> rfl

end Expression

namespace Statement

mutual

/-- The statement with its names respelled. -/
def respell (spelling : Respelling) : Statement → Statement
  | .library span path => .library span path
  | .print span values => .print span (Expression.respellAll spelling values)
  | .assign span name value => .assign span (spelling name) (value.respell spelling)
  | .assignMember span object name value =>
    .assignMember span (object.respell spelling) name (value.respell spelling)
  | .expression span value => .expression span (value.respell spelling)
  | .conditional span branches otherwise =>
    .conditional span (respellBranches spelling branches) (respellOtherwise spelling otherwise)
  | .function span name parameters body isSub =>
    .function span (spelling name) (parameters.map spelling) (respellBlock spelling body) isSub
  | .return span value => .return span (value.map (Expression.respell spelling))
  | .component span name base fields =>
    .component span name base (Expression.respellFields spelling fields)

/-- The statements with their names respelled. -/
def respellBlock (spelling : Respelling) : List Statement → List Statement
  | [] => []
  | statement :: rest => respell spelling statement :: respellBlock spelling rest

/-- The branches with the names in them respelled. -/
def respellBranches (spelling : Respelling) :
    List (Expression × List Statement) → List (Expression × List Statement)
  | [] => []
  | (condition, body) :: rest =>
    (condition.respell spelling, respellBlock spelling body) :: respellBranches spelling rest

/-- The statements for the case that no condition holds, with their names respelled. -/
def respellOtherwise (spelling : Respelling) : Option (List Statement) → Option (List Statement)
  | some body => some (respellBlock spelling body)
  | none => none

end

/-- The function that a statement declares. -/
def function? : Statement → Option Function
  | .function _ name parameters body _ => some ⟨name, parameters, body⟩
  | _ => none

mutual

/-- The names of the functions that a statement declares, itself or inside of it. -/
def declaredNames : Statement → List String
  | .conditional _ branches otherwise =>
    branchNames branches ++ otherwiseNames otherwise
  | .function _ name _ body _ => name :: blockNames body
  | _ => []

/-- The names of the functions that are declared in a block. -/
def blockNames : List Statement → List String
  | [] => []
  | statement :: rest => declaredNames statement ++ blockNames rest

/-- The names of the functions that are declared in branches. -/
def branchNames : List (Expression × List Statement) → List String
  | [] => []
  | (_, body) :: rest => blockNames body ++ branchNames rest

/-- The names of the functions that are declared for the case that no condition holds. -/
def otherwiseNames : Option (List Statement) → List String
  | some body => blockNames body
  | none => []

end

/-- The names of the functions that are declared inside a statement: in the body of a function or
in the branches of a condition. -/
def innerNames : Statement → List String
  | .function _ _ _ body _ => blockNames body
  | statement => statement.declaredNames

end Statement

/-- The function with its names respelled. -/
def Function.respell (spelling : Respelling) (function : Function) : Function where
  name := spelling function.name
  parameters := function.parameters.map spelling
  body := Statement.respellBlock spelling function.body

/-- No name is that of one of the functions. -/
def Spares (functions : List Function) (names : List String) : Prop :=
  ∀ name ∈ names, ∀ function ∈ functions, Name.key name ≠ Name.key function.name

namespace Spares

variable {functions : List Function} {names others : List String} {name : String}

theorem of_nil : Spares [] names := fun _ _ => List.forall_mem_nil _

theorem append_iff : Spares functions (names ++ others) ↔
    Spares functions names ∧ Spares functions others :=
  List.forall_mem_append

theorem cons_iff : Spares functions (name :: names) ↔
    (∀ function ∈ functions, Name.key name ≠ Name.key function.name) ∧ Spares functions names :=
  List.forall_mem_cons

end Spares

/-- The error with the name of a member respelled. -/
def MethodError.respell (spelling : Respelling) : MethodError → MethodError
  | .unknownMember kind name => .unknownMember kind (spelling name)
  | error => error

/-- The error with the name that it is about respelled. -/
def RuntimeError.respell (spelling : Respelling) : RuntimeError → RuntimeError
  | .functionAsValue name => .functionAsValue (spelling name)
  | .uninitialized name => .uninitialized (spelling name)
  | .undefinedFunction name => .undefinedFunction (spelling name)
  | .noMember type name => .noMember type (spelling name)
  | .stackOverflow name => .stackOverflow (spelling name)
  | .functionArity name expected found => .functionArity (spelling name) expected found
  | .builtinArity name expected found => .builtinArity (spelling name) expected found
  | .builtinArgument name position expected found =>
    .builtinArgument (spelling name) position expected found
  | .entryArity name => .entryArity (spelling name)
  | .method error => .method (error.respell spelling)
  | error => error

theorem MethodError.key_message_respell (spelling : Respelling) (error : MethodError) :
    Name.key (error.respell spelling).message = Name.key error.message := by
  cases error with
  | unknownMember kind name =>
      simp only [respell, message, Name.key_append, spelling.key_apply]
  | _ => rfl

theorem RuntimeError.key_message_respell (spelling : Respelling) (error : RuntimeError) :
    Name.key (error.respell spelling).message = Name.key error.message := by
  cases error with
  | method error => exact error.key_message_respell spelling
  | functionAsValue | uninitialized | undefinedFunction | noMember | stackOverflow | functionArity
  | builtinArity | builtinArgument | entryArity =>
      -- equations of `message` would have to compute the greatest length of a text
      delta message respell
      simp only [Name.key_append, spelling.key_apply]
  | _ => rfl

theorem RuntimeError.respell_keep (error : RuntimeError) : error.respell .keep = error := by
  cases error with
  | method error => cases error <;> rfl
  | _ => rfl

/-- A fault is another one, up to the spelling of the name that it is about. -/
inductive Fault.Respelled (spelling : Respelling) : Fault → Fault → Prop
  | same (fault : Fault) : Respelled spelling fault fault
  | respelled (error : RuntimeError) (span : Option Span) :
      Respelled spelling (.runtime error span) (.runtime (error.respell spelling) span)

namespace Fault.Respelled

variable {spelling : Respelling} {fault fault' : Fault}

theorem span?_eq (hfault : fault.Respelled spelling fault') : fault'.span? = fault.span? := by
  cases hfault <;> rfl

theorem key_message_eq (hfault : fault.Respelled spelling fault') :
    Name.key fault'.message = Name.key fault.message := by
  cases hfault with
  | same => rfl
  | respelled error span => exact error.key_message_respell spelling

theorem eq_of_keep (hfault : fault.Respelled .keep fault') : fault' = fault := by
  cases hfault with
  | same => rfl
  | respelled error span => rw [error.respell_keep]

end Fault.Respelled

end BrightScript
