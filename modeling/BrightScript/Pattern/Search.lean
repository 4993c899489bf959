import BrightScript.Pattern.Reader
import Std.Data.HashSet

/-!
Searching a text for a pattern. The machine tries the ways of a program in order of preference; a
state and a place that were tried once are not tried again, since they would fail again.
-/

namespace BrightScript

namespace Pattern

/-- A way through a program: the next instruction, the place in the text, and the noted places. -/
structure Thread where
  state : Nat
  place : Nat
  slots : Array (Option Nat)
  deriving DecidableEq, Repr

namespace Thread

/-- The thread at another instruction, given by its distance. -/
def move (thread : Thread) (offset : Int) : Thread :=
  { thread with state := ((thread.state : Int) + offset).toNat }

/-- The threads that an instruction leads to, best first. -/
def next (text : Array Char) (thread : Thread) : Instruction → List Thread
  | .take members =>
    match text[thread.place]? with
    | some c => if members.contains c then [{ thread.move 1 with place := thread.place + 1 }] else []
    | none => []
  | .require test =>
    let before := if thread.place = 0 then none else text[thread.place - 1]?
    if test.holds before text[thread.place]? then [thread.move 1] else []
  | .note slot =>
    [{ thread.move 1 with slots := thread.slots.setIfInBounds slot (some thread.place) }]
  | .jump offset => [thread.move offset]
  | .fork first second => [thread.move first, thread.move second]
  | .accept => []

end Thread

/-- How many of the numbers below `bound` were not tried. -/
def untried (tried : Std.HashSet Nat) : Nat → Nat
  | 0 => 0
  | bound + 1 => (if tried.contains bound then 0 else 1) + untried tried bound

theorem untried_insert_of_le (tried : Std.HashSet Nat) {mark bound : Nat} (h : bound ≤ mark) :
    untried (tried.insert mark) bound = untried tried bound := by
  induction bound with
  | zero => rfl
  | succ bound ih =>
    have differs : (mark == bound) = false := beq_eq_false_iff_ne.2 (by omega)
    simp only [untried, Std.HashSet.contains_insert, differs, Bool.false_or, ih (by omega)]

theorem untried_insert_lt (tried : Std.HashSet Nat) {mark bound : Nat} (h : mark < bound)
    (fresh : tried.contains mark = false) :
    untried (tried.insert mark) bound < untried tried bound := by
  induction bound with
  | zero => omega
  | succ bound ih =>
    simp only [untried, Std.HashSet.contains_insert]
    by_cases same : bound = mark
    · subst same
      simp only [BEq.rfl, Bool.true_or, if_true, fresh, Bool.false_eq_true, if_false,
        untried_insert_of_le tried (Nat.le_refl _)]
      omega
    · have differs : (mark == bound) = false := beq_eq_false_iff_ne.2 (Ne.symm same)
      have := ih (by omega)
      simp only [differs, Bool.false_or]
      omega

/-- Runs threads, best first, until one accepts. `tried` holds the states that were tried, each with
its place. -/
def run (program : Array Instruction) (text : Array Char) (tried : Std.HashSet Nat) :
    List Thread → Option Thread × Std.HashSet Nat
  | [] => (none, tried)
  | thread :: others =>
    -- a state that led nowhere from a place leads nowhere from there again, whatever the groups are
    let mark := thread.place * program.size + thread.state
    if bound : mark < program.size * (text.size + 1) then
      if fresh : tried.contains mark = false then
        have := untried_insert_lt tried bound fresh
        match program[thread.state]? with
        | some .accept => (some thread, tried)
        | some instruction =>
          run program text (tried.insert mark) (thread.next text instruction ++ others)
        | none => run program text tried others
      else run program text tried others
    else run program text tried others
termination_by threads => (untried tried (program.size * (text.size + 1)), threads.length)

/-- Tries to match at each of `count` places from `place` on. -/
def runFrom (program : Array Instruction) (text : Array Char) (slots : Array (Option Nat))
    (tried : Std.HashSet Nat) (place : Nat) : Nat → Option Thread
  | 0 => none
  | count + 1 =>
    match run program text tried [⟨0, place, slots.setIfInBounds 0 (some place)⟩] with
    | (some thread, _) => some thread
    | (none, tried) => runFrom program text slots tried (place + 1) count

end Pattern

/-- A match: where it starts and stops, and the places of its groups, that of the whole match
first. -/
structure Match where
  start : Nat
  stop : Nat
  groups : List (Option (Nat × Nat))
  deriving DecidableEq, Repr

namespace Match

/-- The part of a text between two places. -/
def slice (text : Array Char) (start stop : Nat) : List Char := (text.extract start stop).toList

/-- The text of a group, which is empty if the group took no part. -/
def groupText (text : Array Char) : Option (Nat × Nat) → List Char
  | some (start, stop) => slice text start stop
  | none => []

/-- The texts of the whole match and of all groups. -/
def texts (text : Array Char) (found : Match) : List (List Char) :=
  found.groups.map (groupText text)

end Match

namespace Pattern

/-- The match that a thread ended with. -/
def matchOf (groups : Nat) (thread : Thread) : Match :=
  let slot (i : Nat) : Option Nat := (thread.slots[i]?).join
  let start := (slot 0).getD thread.place
  let places := (List.range groups).map fun i =>
    if i = 0 then some (start, thread.place)
    else match slot (2 * i), slot (2 * i + 1) with
      | some start, some stop => some (start, stop)
      | _, _ => none
  ⟨start, thread.place, places⟩

def program (pattern : Pattern) : Array Instruction :=
  (pattern.code ++ [Instruction.accept]).toArray

/-- The leftmost match of a program with `groups` groups that starts at or behind a place. -/
def findFrom (program : Array Instruction) (groups : Nat) (text : Array Char) (start : Nat) :
    Option Match :=
  let slots := Array.replicate (2 * groups) none
  (runFrom program text slots {} start (text.size + 1 - start)).map (matchOf groups)

/-- The leftmost match, as preferred by the pattern. -/
def find? (pattern : Pattern) (text : Array Char) : Option Match :=
  findFrom pattern.program pattern.groupCount text 0

/-- Up to `count` matches behind `start`, one after the other. An empty match may not lie at the
end of the match before it, which is `last`. -/
def findAll (program : Array Instruction) (groups : Nat) (text : Array Char) :
    Nat → Nat → Option Nat → List Match
  | 0, _, _ => []
  | count + 1, start, last =>
    let found := match findFrom program groups text start with
      | some found =>
        if found.start = found.stop && some found.stop = last then
          findFrom program groups text (start + 1)
        else some found
      | none => none
    match found with
    | some found => found :: findAll program groups text count found.stop (some found.stop)
    | none => []

/-- All matches, from left to right. There are at most as many as places in the text. -/
def matchesIn (pattern : Pattern) (text : Array Char) : List Match :=
  findAll pattern.program pattern.groupCount text (text.size + 1) 0 none

/-- Whether the pattern matches somewhere. -/
def isMatch (pattern : Pattern) (text : String) : Bool :=
  (pattern.find? text.toList.toArray).isSome

/-- The texts of the first match and its groups. -/
def firstMatch (pattern : Pattern) (text : String) : List String :=
  let chars := text.toList.toArray
  match pattern.find? chars with
  | some found => (found.texts chars).map String.ofList
  | none => []

/-- The texts of all matches and their groups. -/
def allMatches (pattern : Pattern) (text : String) : List (List String) :=
  let chars := text.toList.toArray
  (pattern.matchesIn chars).map fun found => (found.texts chars).map String.ofList

/-- The pieces of a text from `start` on, between the matches. -/
def pieces (text : Array Char) (start : Nat) : List Match → List (List Char)
  | [] => [Match.slice text start text.size]
  | found :: rest => Match.slice text start found.start :: pieces text found.stop rest

/-- Cuts a text at every match. -/
def split (pattern : Pattern) (text : String) : List String :=
  let chars := text.toList.toArray
  (pieces chars 0 (pattern.matchesIn chars)).map String.ofList

/-- The text from `start` on with the given matches replaced. -/
def replaceMatches (text : Array Char) (expand : List (List Char) → List Char) (start : Nat) :
    List Match → List Char
  | [] => Match.slice text start text.size
  | found :: rest =>
    Match.slice text start found.start ++ expand (found.texts text) ++
      replaceMatches text expand found.stop rest

end Pattern

end BrightScript
