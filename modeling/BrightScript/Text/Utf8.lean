/-!
Decoding bytes as UTF-8 where they may be faulty: each longest faulty piece that could have begun
a character becomes one replacement character.
-/

namespace BrightScript.Text

/-- The character that stands for faulty bytes. -/
def replacement : Char := '\ufffd'

/-- Whether a byte may continue a character. -/
def isContinuation (byte : UInt8) : Bool := 0x80 ≤ byte && byte ≤ 0xBF

/-- The bytes that may follow the first byte of a character: how many, and the range of the first
of them. -/
def continuations? (first : UInt8) : Option (Nat × UInt8 × UInt8) :=
  if 0xC2 ≤ first && first ≤ 0xDF then some (1, 0x80, 0xBF)
  else if first == 0xE0 then some (2, 0xA0, 0xBF)
  else if first == 0xED then some (2, 0x80, 0x9F)
  else if 0xE1 ≤ first && first ≤ 0xEF then some (2, 0x80, 0xBF)
  else if first == 0xF0 then some (3, 0x90, 0xBF)
  else if 0xF1 ≤ first && first ≤ 0xF3 then some (3, 0x80, 0xBF)
  else if first == 0xF4 then some (3, 0x80, 0x8F)
  else none

/-- The code point of a character of several bytes. -/
def assembleCode (first : UInt8) (others : List UInt8) : Nat :=
  let lead :=
    match others.length with
    | 1 => first.toNat % 32
    | 2 => first.toNat % 16
    | _ => first.toNat % 8
  others.foldl (fun code byte => code * 64 + byte.toNat % 64) lead

/-- How many of the bytes after a first byte belong to its character. -/
def continuationCount (count : Nat) (low high : UInt8) (bytes : List UInt8) : Nat :=
  match bytes with
  | second :: rest =>
    if low ≤ second && second ≤ high then
      1 + ((rest.take (count - 1)).takeWhile isContinuation).length
    else 0
  | [] => 0

/-- Decodes bytes, putting the replacement character for faulty ones. -/
def decodeLossy (bytes : List UInt8) : List Char :=
  match bytes with
  | [] => []
  | first :: rest =>
    if first < 0x80 then Char.ofNat first.toNat :: decodeLossy rest
    else
      match continuations? first with
      | none => replacement :: decodeLossy rest
      | some (count, low, high) =>
        let taken := continuationCount count low high rest
        let c :=
          if taken = count then Char.ofNat (assembleCode first (rest.take taken)) else replacement
        c :: decodeLossy (rest.drop taken)
termination_by bytes.length
decreasing_by all_goals simp; try omega

end BrightScript.Text
