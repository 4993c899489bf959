import BrightScript.Pattern.Normal

/-!
Patterns as programs of a small matching machine. Jumps are relative, so that the program of a
sequence is the programs of its parts one after the other.
-/

namespace BrightScript

/-- One instruction of the matching machine. -/
inductive Instruction where
  /-- Takes one character of the set. -/
  | take (members : CharSet)
  /-- Goes on only where the assertion holds. -/
  | require (test : Assertion)
  /-- Notes the place in a slot. -/
  | note (slot : Nat)
  | jump (offset : Int)
  /-- Tries the first way, and the second if the first fails. -/
  | fork (first second : Int)
  | accept
  deriving DecidableEq, Repr

namespace Pattern

/-- A fork that prefers `body` if the repetition is greedy, and `exit` otherwise. -/
def repeatFork (greedy : Bool) (body exit : Int) : Instruction :=
  if greedy then .fork body exit else .fork exit body

/-- Up to `count` further copies of `body`, each of which may be left out with all that follow. -/
def optionalCopies (greedy : Bool) (body : List Instruction) : Nat → List Instruction
  | 0 => []
  | count + 1 =>
    repeatFork greedy 1 ((body.length + 1) * (count + 1)) ::
      (body ++ optionalCopies greedy body count)

/-- The program of a repetition of `body`, which always takes a character if `consumes`. -/
def repeatCode (consumes greedy : Bool) (body : List Instruction) (least : Nat) :
    Option Nat → List Instruction
  | some most => (List.replicate least body).flatten ++ optionalCopies greedy body (most - least)
  | none =>
    match least with
    | 0 =>
      if consumes then
        repeatFork greedy 1 (body.length + 2) :: (body ++ [.jump (-(body.length + 1))])
      else
        repeatFork greedy 1 (body.length + 2) ::
          (body ++ [repeatFork greedy (-body.length) 1])
    | least + 1 =>
      (List.replicate least body).flatten ++ body ++ [repeatFork greedy (-body.length) 1]

mutual

/-- The program that matches a pattern and goes on behind its last instruction. -/
def code : Pattern → List Instruction
  | .literal chars => chars.map fun c => .take (.single c)
  | .set members _ => [.take members]
  | .assertion test => [.require test]
  | .group none inner => inner.code
  | .group (some number) inner =>
    .note (2 * number) :: (inner.code ++ [.note (2 * number + 1)])
  | .sequence parts => sequenceCode parts
  | .choice alternatives => choiceCode alternatives
  | .repeated inner least most greedy =>
    repeatCode inner.consumes greedy inner.code least most

/-- The programs of all parts in order. -/
def sequenceCode : List Pattern → List Instruction
  | [] => []
  | part :: rest => part.code ++ sequenceCode rest

/-- Tries the alternatives in order. -/
def choiceCode : List Pattern → List Instruction
  | [] => []
  | [last] => last.code
  | first :: rest =>
    let body := first.code
    let others := choiceCode rest
    .fork 1 (body.length + 2) :: (body ++ .jump (others.length + 1) :: others)

end

mutual

/-- One more than the greatest number of a group. -/
def groupCount : Pattern → Nat
  | .literal _ | .set _ _ | .assertion _ => 1
  | .group number inner => max (number.getD 0 + 1) inner.groupCount
  | .sequence parts => groupCounts parts
  | .choice alternatives => groupCounts alternatives
  | .repeated inner _ _ _ => inner.groupCount

/-- The greatest count among patterns. -/
def groupCounts : List Pattern → Nat
  | [] => 1
  | part :: rest => max part.groupCount (groupCounts rest)

end

end Pattern

end BrightScript
