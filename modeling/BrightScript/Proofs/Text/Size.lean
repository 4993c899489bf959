import BrightScript.Method.Call
import BrightScript.Pattern.Search
import BrightScript.Proofs.Text.LetterCase
import BrightScript.Proofs.Text.Split
import BrightScript.Text.Search

namespace BrightScript

namespace Text

/-- The text is one that a program may build. -/
def Fits (text : String) : Prop := text.utf8ByteSize ≤ maxTextBytes

instance : DecidablePred Fits := fun text => Nat.decLe text.utf8ByteSize maxTextBytes

theorem utf8ByteSize_ofList_le (chars : List Char) :
    (String.ofList chars).utf8ByteSize ≤ 4 * chars.length := by
  rw [String.utf8ByteSize_ofList]
  induction chars with
  | nil => exact Nat.le_refl 0
  | cons c rest ih =>
      have hc := c.utf8Size_le_four
      rw [String.utf8Len_cons, List.length_cons]
      omega

theorem fits_of_length_le {text : String} (htext : text.length ≤ 0x400000) : Fits text := by
  have hbytes := utf8ByteSize_ofList_le text.toList
  rw [String.ofList_toList, String.length_toList] at hbytes
  unfold Fits maxTextBytes
  omega

theorem fits_append {left right : String}
    (hboth : left.utf8ByteSize + right.utf8ByteSize ≤ maxTextBytes) : Fits (left ++ right) := by
  rwa [Fits, String.utf8ByteSize_append]

theorem Fits.of_sublist {chars : List Char} {text : String} (htext : Fits text)
    (hchars : chars.Sublist text.toList) : Fits (String.ofList chars) := by
  have hbytes := String.utf8Len_le_of_sublist hchars
  rw [String.utf8Len_toList, ← String.utf8ByteSize_ofList] at hbytes
  exact hbytes.trans htext

theorem utf8ByteSize_ofList_take (text : String) (count : Nat) :
    (String.ofList (text.toList.take count)).utf8ByteSize ≤ text.utf8ByteSize := by
  rw [String.utf8ByteSize_ofList, ← String.utf8Len_toList text]
  exact String.utf8Len_le_of_sublist (List.take_sublist _ _)

theorem Fits.key {name : String} (hname : Fits name) : Fits (Name.key name) := by
  rwa [Fits, Name.utf8ByteSize_key]

theorem Fits.trim {text : String} (htext : Fits text) : Fits (trim text) :=
  htext.of_sublist (trimChars_sublist text.toList)

theorem utf8Len_replicate (letter : Char) (count : Nat) :
    String.utf8Len (List.replicate count letter) = count * letter.utf8Size := by
  induction count with
  | zero => rw [List.replicate_zero, String.utf8Len_nil, Nat.zero_mul]
  | succ count ih => rw [List.replicate_succ, String.utf8Len_cons, ih, Nat.succ_mul]

theorem utf8Len_replaceFrom_replicate (letter : Char) (replacement : List Char) (count : Nat) :
    String.utf8Len (replaceFrom [letter] replacement 0 (List.replicate count letter)) =
      count * String.utf8Len replacement := by
  induction count with
  | zero => rw [List.replicate_zero, replaceFrom, String.utf8Len_nil, Nat.zero_mul]
  | succ count ih =>
      have hfound : [letter].isPrefixOf (letter :: List.replicate count letter) = true := by simp
      rw [List.replicate_succ, replaceFrom, if_pos hfound, String.utf8Len_append, Nat.succ_mul,
        Nat.add_comm]
      exact congrArg (· + _) ih

/-- Where each of some letters is replaced by all of them, the size is squared. -/
theorem utf8ByteSize_replaceAll_self (count : Nat) :
    let letters := String.ofList (List.replicate count 'a')
    (String.ofList (replaceAll "a".toList letters.toList letters.toList)).utf8ByteSize =
      count * count := by
  intro letters
  have hone : 'a'.utf8Size = 1 := by decide
  have hletters : letters.toList = List.replicate count 'a' := String.toList_ofList
  rw [String.utf8ByteSize_ofList, hletters]
  change String.utf8Len (replaceFrom ['a'] _ 0 _) = _
  rw [utf8Len_replaceFrom_replicate, utf8Len_replicate, hone, Nat.mul_one]

end Text

namespace Match

theorem sublist_slice (text : Array Char) (start stop : Nat) :
    (slice text start stop).Sublist text.toList := by
  rw [slice, Array.toList_extract, List.extract_eq_take_drop]
  exact (List.take_sublist _ _).trans (List.drop_sublist _ _)

theorem sublist_of_mem_texts {text : Array Char} {found : Match} {chars : List Char}
    (hchars : chars ∈ found.texts text) : chars.Sublist text.toList := by
  obtain ⟨place, -, rfl⟩ := List.mem_map.mp hchars
  cases place with
  | none => exact List.nil_sublist _
  | some place => exact sublist_slice text place.1 place.2

end Match

namespace Pattern

theorem sublist_of_mem_pieces {text : Array Char} {chars : List Char} {start : Nat}
    {found : List Match} (hchars : chars ∈ pieces text start found) :
    chars.Sublist text.toList := by
  induction found generalizing start with
  | nil =>
      rw [List.mem_singleton.mp hchars]
      exact Match.sublist_slice text _ _
  | cons first rest ih =>
      rcases List.mem_cons.mp hchars with rfl | hrest
      · exact Match.sublist_slice text _ _
      · exact ih hrest

variable {pattern : Pattern} {text part : String}

theorem fits_of_mem_texts (htext : Text.Fits text) {found : Match}
    (hpart : part ∈ (found.texts text.toList.toArray).map String.ofList) : Text.Fits part := by
  obtain ⟨chars, hchars, rfl⟩ := List.mem_map.mp hpart
  exact htext.of_sublist (Match.sublist_of_mem_texts hchars)

theorem fits_of_mem_firstMatch (htext : Text.Fits text)
    (hpart : part ∈ pattern.firstMatch text) : Text.Fits part := by
  unfold firstMatch at hpart
  dsimp only at hpart
  split at hpart
  · exact fits_of_mem_texts htext hpart
  · cases hpart

theorem fits_of_mem_allMatches (htext : Text.Fits text) {parts : List String}
    (hparts : parts ∈ pattern.allMatches text) (hpart : part ∈ parts) : Text.Fits part := by
  obtain ⟨found, -, rfl⟩ := List.mem_map.mp hparts
  exact fits_of_mem_texts htext hpart

theorem fits_of_mem_split (htext : Text.Fits text) (hpart : part ∈ pattern.split text) :
    Text.Fits part := by
  obtain ⟨chars, hchars, rfl⟩ := List.mem_map.mp hpart
  exact htext.of_sublist (sublist_of_mem_pieces hchars)

end Pattern

namespace Decimal

theorem ofFloat_eq_finite {value : Float} {negative : Bool} {mantissa : Nat} {exponent : Int}
    (hvalue : Binary.ofFloat value = .finite negative mantissa exponent) :
    mantissa < 2 ^ 53 ∧ -1074 ≤ exponent ∧ exponent ≤ 971 := by
  unfold Binary.ofFloat at hvalue
  dsimp only at hvalue
  split at hvalue
  · split at hvalue <;> cases hvalue
  · split at hvalue
    · injection hvalue
      omega
    · injection hvalue
      omega

/-- A point of a grid is not much further out than the value, counted in steps of the grid. -/
theorem le_of_gridPoint? {interval : Rounding} {power : Int} {point : Nat}
    (hpoint : interval.gridPoint? power = some point) :
    point ≤ interval.value * (10 ^ (-power).toNat * 2 ^ interval.exponent.toNat) + 1 := by
  unfold Rounding.gridPoint? at hpoint
  dsimp only at hpoint
  have hquotient := Nat.div_le_self
    (interval.value * (Nat.pow 10 (-power).toNat * Nat.pow 2 interval.exponent.toNat))
    (Nat.pow 10 power.toNat * Nat.pow 2 (-interval.exponent).toNat)
  simp only [Nat.pow_eq] at hpoint hquotient
  split at hpoint
  · split at hpoint <;> cases hpoint <;> omega
  · cases hpoint
    omega
  · cases hpoint
    omega
  · cases hpoint

theorem coarsest_eq (interval : Rounding) (power : Int) (steps : Nat) :
    interval.coarsest power steps = ⟨0, 0⟩ ∨
      interval.gridPoint? (interval.coarsest power steps).exponent =
          some (interval.coarsest power steps).digits ∧
        power - steps ≤ (interval.coarsest power steps).exponent ∧
        (interval.coarsest power steps).exponent ≤ power := by
  induction steps generalizing power with
  | zero => exact .inl rfl
  | succ steps ih =>
      unfold Rounding.coarsest
      split
      · next point hpoint =>
          refine .inr ⟨hpoint, ?_, Int.le_refl power⟩
          dsimp only
          omega
      · rcases ih (power - 1) with hnone | ⟨hpoint, hleast, hmost⟩
        · exact .inl hnone
        · refine .inr ⟨hpoint, ?_, ?_⟩
          · push_cast
            omega
          · omega

theorem trimmed_le (decimal : Scaled) (steps : Nat) :
    (decimal.trimmed steps).digits ≤ decimal.digits ∧
      decimal.exponent ≤ (decimal.trimmed steps).exponent ∧
      (decimal.trimmed steps).exponent ≤ decimal.exponent + steps := by
  induction steps generalizing decimal with
  | zero => simp [Scaled.trimmed]
  | succ steps ih =>
      unfold Scaled.trimmed
      split
      · obtain ⟨hdigits, hleast, hmost⟩ := ih ⟨decimal.digits / 10, decimal.exponent + 1⟩
        refine ⟨hdigits.trans (Nat.div_le_self _ _), ?_, ?_⟩
        · dsimp only at hleast
          omega
        · dsimp only at hmost
          push_cast
          omega
      · refine ⟨Nat.le_refl _, Int.le_refl _, ?_⟩
        omega

theorem length_positional_le {decimal : Scaled} {count : Nat} (hcount : 0 < count)
    (hdigits : decimal.digits < 10 ^ count) (hleast : -400 ≤ decimal.exponent)
    (hmost : decimal.exponent ≤ 400) : decimal.positional.length ≤ count + 402 := by
  have hlength : (digitChars decimal.digits).length ≤ count :=
    Nat.toDigits_length 10 decimal.digits count hcount hdigits
  unfold Scaled.positional
  dsimp only
  split
  · rw [String.length_ofList, List.length_append, List.length_replicate]
    omega
  · rw [String.length_ofList, List.length_append, List.length_cons, List.length_take,
      List.length_drop, List.length_append, List.length_replicate]
    omega

theorem pow_mul_pow_lt (first second third : Nat) :
    10 ^ first * (10 ^ second * 10 ^ third) + 1 < 10 ^ (first + (second + third) + 1) := by
  have hpos : 0 < 10 ^ (first + (second + third)) := Nat.pow_pos (by decide)
  rw [← pow_add, ← pow_add, pow_succ]
  omega

theorem digits_coarsest_lt {mantissa : Nat} {exponent start : Int} (hmantissa : mantissa < 2 ^ 53)
    (hexponent : exponent ≤ 971) (hstart : -378 ≤ start) :
    ((Rounding.around mantissa exponent).coarsest start 22).digits <
      10 ^ (17 + (400 + 1000) + 1) := by
  set interval := Rounding.around mantissa exponent with hinterval
  rcases coarsest_eq interval start 22 with hnone | ⟨hpoint, hpower, -⟩
  · rw [hnone]
    positivity
  · have hvalue : interval.value ≤ 10 ^ 17 := by
      rw [hinterval, Rounding.around]
      dsimp only
      omega
    have htwo : interval.exponent.toNat ≤ 1000 := by
      rw [hinterval, Rounding.around]
      dsimp only
      omega
    have hten : (-(interval.coarsest start 22).exponent).toNat ≤ 400 := by omega
    have hscale : 2 ^ interval.exponent.toNat ≤ 10 ^ 1000 :=
      (pow_le_pow_left₀ (by decide) (by decide) _).trans (pow_le_pow_right₀ (by decide) htwo)
    calc (interval.coarsest start 22).digits
      _ ≤ interval.value * (10 ^ (-(interval.coarsest start 22).exponent).toNat *
            2 ^ interval.exponent.toNat) + 1 := le_of_gridPoint? hpoint
      _ ≤ 10 ^ 17 * (10 ^ 400 * 10 ^ 1000) + 1 := by
          gcongr
          decide
      _ < 10 ^ (17 + (400 + 1000) + 1) := pow_mul_pow_lt 17 400 1000

theorem length_shortest_le {mantissa : Nat} {exponent : Int} (hmantissa : mantissa < 2 ^ 53)
    (hleast : -1074 ≤ exponent) (hmost : exponent ≤ 971) :
    (shortest mantissa exponent).positional.length ≤ 2000 := by
  unfold shortest
  split
  · exact (length_positional_le Nat.one_pos (by decide) (by decide) (by decide)).trans (by decide)
  · next hzero =>
      have hsize : Nat.log2 mantissa < 53 := (Nat.log2_lt hzero).mpr hmantissa
      dsimp only
      set start := ((Nat.log2 mantissa : Int) + exponent) * 30103 / 100000 + 2 with hstart
      set decimal := (Rounding.around mantissa exponent).coarsest start 22 with hdecimal
      have hplaces : -400 ≤ decimal.exponent ∧ decimal.exponent ≤ 370 := by
        have hcoarsest := coarsest_eq (Rounding.around mantissa exponent) start 22
        rcases hcoarsest with hnone | ⟨-, hlow, hhigh⟩
        · rw [hdecimal, hnone]
          decide
        · rw [hdecimal]
          omega
      have hdigits : decimal.digits < 10 ^ (17 + (400 + 1000) + 1) :=
        digits_coarsest_lt hmantissa hmost (by omega)
      obtain ⟨htrimmed, hlow, hhigh⟩ := trimmed_le decimal 22
      refine (length_positional_le (by decide) (htrimmed.trans_lt hdigits) ?_ ?_).trans (by decide)
      · exact hplaces.1.trans hlow
      · exact hhigh.trans (by clear hdigits; omega)

theorem length_text_le (value : Float) : (text value).length ≤ 2001 := by
  unfold text
  split
  · decide
  · split <;> decide
  · next negative mantissa exponent hvalue =>
      obtain ⟨hmantissa, hleast, hmost⟩ := ofFloat_eq_finite hvalue
      have hmagnitude : (if mantissa = 0 then "0"
          else (shortest mantissa exponent).positional).length ≤ 2000 := by
        split
        · decide
        · exact length_shortest_le hmantissa hleast hmost
      dsimp only
      split
      · rw [String.length_append]
        exact Nat.add_comm _ _ ▸ Nat.succ_le_succ hmagnitude
      · exact hmagnitude.trans (Nat.le_succ _)

end Decimal

theorem Int64.length_toString_le (value : Int64) : (toString value.toInt).length ≤ 21 := by
  have hleast := value.le_toInt
  have hmost := value.toInt_lt
  cases hvalue : value.toInt with
  | ofNat magnitude =>
      rw [hvalue, Int.ofNat_eq_natCast] at hmost
      have hdigits : magnitude.repr.length ≤ 20 :=
        Nat.repr_length magnitude 20 (by decide) (by omega)
      exact hdigits.trans (by decide)
  | negSucc magnitude =>
      have hdigits : magnitude.succ.repr.length ≤ 20 :=
        Nat.repr_length magnitude.succ 20 (by decide) (by omega)
      change ("-" ++ magnitude.succ.repr).length ≤ 21
      rw [String.length_append]
      exact Nat.add_comm _ _ ▸ Nat.succ_le_succ hdigits

theorem Value.length_display_le {value : Value} (hnumber : value.number?.isSome) :
    value.display.length ≤ 2001 := by
  cases value with
  | integer number => exact (Int64.length_toString_le number).trans (by decide)
  | float number =>
      change (floatText number).length ≤ 2001
      unfold floatText
      split
      · exact (Int64.length_toString_le _).trans (by decide)
      · exact Decimal.length_text_le number
  | _ => cases hnumber

end BrightScript
