import BrightScript.Method.Call
import BrightScript.Syntax.Basic

namespace BrightScript

/-- What is wrong with a program that is running. -/
inductive RuntimeError where
  | conditionType (found : String)
  | unaryType (operator : UnaryOperator) (operand : String)
  | binaryType (operator : BinaryOperator) (left right : String)
  | divisionByZero
  | textTooLong
  | functionAsValue (name : String)
  | uninitialized (name : String)
  | undefinedFunction (name : String)
  | notCallable
  | noMember (type name : String)
  | stackOverflow (name : String)
  | functionArity (name : String) (expected found : Nat)
  | builtinArity (name : String) (expected found : Nat)
  | builtinArgument (name : String) (position : Nat) (expected found : String)
  | entryArity (name : String)
  | method (error : MethodError)
  | other (message : String)
  deriving DecidableEq, Repr

def RuntimeError.message : RuntimeError → String
  | .conditionType found => "Type Mismatch. Condition must be Boolean, found " ++ found
  | .unaryType operator operand =>
    "Type Mismatch. Operator \"" ++ operator.text ++ "\" can't be applied to \"" ++ operand ++ "\""
  | .binaryType operator left right =>
    "Type Mismatch. Operator \"" ++ operator.text ++ "\" can't be applied to \"" ++ left ++
      "\" and \"" ++ right ++ "\""
  | .divisionByZero => "Divide by Zero"
  | .textTooLong =>
    "String too long: concatenation exceeds " ++ toString maxTextBytes ++ " bytes"
  | .functionAsValue name => "Function '" ++ name ++ "' cannot be used as a value"
  | .uninitialized name => "Use of uninitialized variable '" ++ name ++ "'"
  | .undefinedFunction name => "Function '" ++ name ++ "' is not defined"
  | .notCallable => "Only named functions and methods can be called"
  | .noMember type name => "'" ++ type ++ "' has no member '" ++ name ++ "'"
  | .stackOverflow name => "Stack overflow while calling '" ++ name ++ "'"
  | .functionArity name expected found =>
    "'" ++ name ++ "' expects " ++ toString expected ++ " argument(s), found " ++ toString found
  | .builtinArity name expected found =>
    name ++ "() expects " ++ toString expected ++ " argument(s), found " ++ toString found
  | .builtinArgument name position expected found =>
    name ++ "() argument " ++ toString position ++ " must be " ++ expected ++ ", found " ++ found
  | .entryArity name => "Entry point '" ++ name ++ "' takes at most one parameter"
  | .method error => error.message
  | .other message => message

/-- What ends a run: an error of the program, with the part of the source text it arose in if there
is one, or a breakdown of the interpreter, which may have left a message. -/
inductive Fault where
  | runtime (error : RuntimeError) (span : Option Span)
  | breakdown (message : Option String)
  deriving DecidableEq, Repr

def Fault.message : Fault → String
  | .runtime error _ => error.message
  | .breakdown message => "Interpreter panicked: " ++ message.getD "unknown panic"

/-- The source text that a fault is about. -/
def Fault.span? : Fault → Option Span
  | .runtime _ span => span
  | .breakdown _ => none

end BrightScript
