import BrightScript.Pattern.Program

/-!
How large a pattern is. A pattern is read by an automaton over the bytes of UTF-8, forward to find
where a match ends and backward to find where it starts; both have to fit a limit. Their sizes are
found without building them.
-/

namespace BrightScript.Pattern

/-- The size, in bytes, that each automaton of a pattern may have. -/
def sizeLimit : Nat := 10485760

def stateSize : Nat := 32

/-- The size of one of several transitions of a state. -/
def transitionSize : Nat := 8

/-- The size of one of the ways that a state leaves open. -/
def branchSize : Nat := 4

/-- The size of a state with two ways to go on. -/
def forkSize : Nat := stateSize + 2 * branchSize

/-- The encoded forms of some characters: for each place the first and the last byte. -/
abbrev ByteForm := List (Nat × Nat)

/-- The forms of the numbers from `first` to `last` in `places` bytes of six bits behind a byte that
is `mark` plus all higher bits. -/
def forms (mark : Nat) : Nat → Nat → Nat → List ByteForm
  | 0, first, last => [[(mark + first, mark + last)]]
  | places + 1, first, last =>
    let size := Nat.pow 64 (places + 1)
    let low := first / size
    let high := last / size
    let inside (lead from' upto : Nat) : List ByteForm :=
      (forms 0x80 places from' upto).map ((mark + lead, mark + lead) :: ·)
    if low = high then inside low (first % size) (last % size)
    else
      let start := if first % size = 0 then low else low + 1
      let stop := if last % size = size - 1 then high + 1 else high
      let head := if start = low then [] else inside low (first % size) (size - 1)
      let tail := if stop = high then inside high 0 (last % size) else []
      let whole :=
        if start < stop then
          [(mark + start, mark + stop - 1) :: List.replicate (places + 1) (0x80, 0xBF)]
        else []
      head ++ whole ++ tail

/-- The ranges of characters with encoded forms of one length: the mark of the first byte, the number
of bytes behind it, and the range. -/
def encodings : List (Nat × Nat × Text.CodeRange) :=
  [(0, 0, ⟨0, 0x7F⟩), (0xC0, 1, ⟨0x80, 0x7FF⟩), (0xE0, 2, ⟨0x800, 0xD7FF⟩),
    (0xE0, 2, ⟨0xE000, 0xFFFF⟩), (0xF0, 3, ⟨0x10000, 0x10FFFF⟩)]

/-- The forms of the characters in a range. -/
def rangeForms (range : Text.CodeRange) : List ByteForm :=
  encodings.flatMap fun (mark, places, limits) =>
    let first := max range.first limits.first
    let last := min range.last limits.last
    if first ≤ last then forms mark places first last else []

/-- How many places two forms share at their start. -/
def sharedPlaces : ByteForm → ByteForm → Nat
  | left :: lefts, right :: rights => if left = right then sharedPlaces lefts rights + 1 else 0
  | _, _ => 0

/-- How many states tell ascending forms apart, if those that start alike share states. -/
def prefixStates (before : ByteForm) : List ByteForm → Nat
  | [] => 0
  | form :: rest => form.length - sharedPlaces before form + prefixStates form rest

/-- A state of the forward automaton: its transitions and the numbers of the states they lead to. -/
abbrev ByteState := List ((Nat × Nat) × Nat)

/-- The forms behind each first place, in order. -/
def groupForms : List ByteForm → List ((Nat × Nat) × List ByteForm)
  | [] => []
  | [] :: rest => groupForms rest
  | (place :: places) :: rest =>
    match groupForms rest with
    | (next, forms) :: groups =>
      if next = place then (place, places :: forms) :: groups
      else (place, [places]) :: (next, forms) :: groups
    | [] => [(place, [places])]

/-- Adds the states that read forms of at most `places` bytes to those that are `known`, where equal
states are shared, and gives the number of the first. The end of all forms has the number 0. -/
def addStates (known : Array ByteState) : Nat → List ByteForm → Nat × Array ByteState
  | 0, _ => (0, known)
  | places + 1, forms =>
    if forms.all List.isEmpty then (0, known)
    else
      let (state, known) := (groupForms forms).foldl
        (fun (state, known) (place, tails) =>
          let (next, known) := addStates known places tails
          ((place, next) :: state, known))
        (([] : ByteState), known)
      match known.findIdx? (· == state) with
      | some index => (index + 1, known)
      | none => (known.size + 1, known.push state)

/-- The size of the states that read the characters of a set. -/
def setSize (backward : Bool) (members : CharSet) : Nat :=
  let ranges := members.codes.ranges.toList
  let forms := ranges.flatMap rangeForms
  if forms.isEmpty then stateSize
  else if ranges.all (·.last < 0x80) then 2 * stateSize + transitionSize * ranges.length
  else if backward then
    2 * stateSize + stateSize * prefixStates [] forms + branchSize * forms.length
  else
    (addStates #[] 4 forms).2.foldl
      (fun size state => size + stateSize + transitionSize * state.length) stateSize

/-- The bytes of the encoded form of a character. -/
def charBytes (c : Char) : List Nat :=
  (rangeForms ⟨c.toNat, c.toNat⟩).flatMap fun form => form.map Prod.fst

/-- The bytes of alternatives that are all literals. -/
def literalBytes? : List Pattern → Option (List (List Nat))
  | [] => some []
  | .literal chars :: rest => (literalBytes? rest).map (chars.flatMap charBytes :: ·)
  | _ :: _ => none

/-- Adds a word to those that start with the same byte. The empty word starts with none. -/
def addTail (word : List Nat) :
    List (Nat × List (List Nat)) → List (Nat × List (List Nat))
  | [] =>
    match word with
    | [] => []
    | byte :: tail => [(byte, [tail])]
  | (start, tails) :: rest =>
    match word with
    | [] => (start, tails) :: rest
    | byte :: tail =>
      if byte = start then (start, tail :: tails) :: rest else (start, tails) :: addTail word rest

/-- The lists of words between the empty ones. -/
def betweenEmpty : List (List Nat) → List (List (List Nat))
  | [] => [[]]
  | [] :: rest => [] :: betweenEmpty rest
  | word :: rest =>
    match betweenEmpty rest with
    | words :: others => (word :: words) :: others
    | [] => [[word]]

/-- The size of the states that tell words of at most `length` bytes apart. Words that start alike
share states, except where a shorter word that is preferred stands between them. -/
def wordsSize : Nat → List (List Nat) → Nat
  | 0, _ => 0
  | length + 1, words =>
    if words.all List.isEmpty then 0
    else
      let lists := betweenEmpty words
      let size := lists.foldl
        (fun size words =>
          match words.foldr addTail [] with
          | [] => size
          | [(_, tails)] => size + stateSize + branchSize + wordsSize length tails
          | starts => starts.foldl
              (fun size (_, tails) => size + transitionSize + wordsSize length tails)
              (size + stateSize + branchSize))
        stateSize
      size + branchSize * (lists.length - 1)

/-- The size of what has states of its own, or of the one state that stands for nothing. -/
def orEmpty (size : Nat) : Nat := if size = 0 then stateSize else size

/-- The size of a repetition of something. -/
def repeatedSize (consumes : Bool) (size least : Nat) : Option Nat → Nat
  | none =>
    match least with
    | 0 => if consumes then orEmpty size + forkSize else orEmpty size + 2 * forkSize + stateSize
    | _ + 1 => orEmpty size * least + forkSize
  | some most =>
    if least = 0 && most = 1 then orEmpty size + forkSize + stateSize
    else if least = most then orEmpty size * least
    else
      orEmpty (orEmpty size * least) + stateSize + (most - least) * (orEmpty size + forkSize)

mutual

/-- The size of the states of a pattern; none are needed for nothing. -/
def size (backward : Bool) : Pattern → Nat
  | .literal chars => stateSize * (chars.flatMap charBytes).length
  | .set members _ => setSize backward members
  | .assertion _ => stateSize
  | .group none inner => inner.size backward
  | .group (some _) inner =>
    if backward then inner.size backward else orEmpty (inner.size backward) + 2 * stateSize
  | .sequence parts => sizes backward parts
  | .choice alternatives =>
    match literalBytes? alternatives with
    | some words =>
      let words := if backward then words.map List.reverse else words
      stateSize + wordsSize (words.foldl (fun longest word => max longest word.length) 0) words
    | none => 2 * stateSize + choiceSizes backward alternatives
  | .repeated inner least most _ =>
    repeatedSize inner.consumes (inner.size backward) least most

def sizes (backward : Bool) : List Pattern → Nat
  | [] => 0
  | part :: rest => part.size backward + sizes backward rest

/-- The sum of the sizes of alternatives and of the ways to them. -/
def choiceSizes (backward : Bool) : List Pattern → Nat
  | [] => 0
  | first :: rest => orEmpty (first.size backward) + branchSize + choiceSizes backward rest

end

/-- The size of the states that skip what stands before a match, and of the one that ends it. -/
def frameSize : Nat := forkSize + 3 * stateSize + transitionSize

/-- Whether one of the automata of the pattern does not fit the limit. -/
def isTooLarge (pattern : Pattern) : Bool :=
  orEmpty (pattern.size false) + 2 * stateSize + frameSize > sizeLimit ||
    orEmpty (pattern.size true) + frameSize > sizeLimit

end BrightScript.Pattern
