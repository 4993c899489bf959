namespace BrightScript.Text

/-- Every `step`-th code point from `first` to `last`, each mapped to itself plus `shift`. -/
structure ShiftRun where
  first : Nat
  last : Nat
  step : Nat
  shift : Int
  deriving DecidableEq, Repr

/-- The code points that the run maps, and what it maps them to. -/
def ShiftRun.pairs (run : ShiftRun) : List (Nat × Nat) :=
  (List.range ((run.last - run.first) / run.step + 1)).map fun i =>
    let code := run.first + i * run.step
    (code, ((code : Int) + run.shift).toNat)

/-- Whether the run maps a code point. -/
def ShiftRun.contains (run : ShiftRun) (code : Nat) : Bool :=
  run.first ≤ code && code ≤ run.last && (code - run.first) % run.step == 0

/-- The image of a character under the first run that maps it, or the character itself. -/
def shifted (runs : Array ShiftRun) (c : Char) : Char :=
  match runs.find? (·.contains c.toNat) with
  | some run => Char.ofNat ((c.toNat : Int) + run.shift).toNat
  | none => c

/-- The characters that the runs map to `c`. -/
def preimages (runs : Array ShiftRun) (c : Char) : List Char :=
  runs.toList.filterMap fun run =>
    let code : Int := (c.toNat : Int) - run.shift
    if 0 ≤ code && run.contains code.toNat then some (Char.ofNat code.toNat) else none

end BrightScript.Text
