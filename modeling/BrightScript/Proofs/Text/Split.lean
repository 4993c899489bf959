import Mathlib
import BrightScript.Text.Blank
import BrightScript.Text.Split

namespace BrightScript.Text

variable {chars : List Char}

theorem not_mem_of_mem_splitOn {separator : Char} {piece : List Char}
    (hpiece : piece ∈ chars.splitOn separator) : separator ∉ piece := by
  induction chars generalizing piece with
  | nil =>
      rw [List.splitOn_nil, List.mem_singleton] at hpiece
      rw [hpiece]
      exact List.not_mem_nil
  | cons c rest ih =>
      rw [List.splitOn_cons_eq_if_modifyHead] at hpiece
      split at hpiece
      · rcases List.mem_cons.mp hpiece with rfl | hpiece
        · exact List.not_mem_nil
        · exact ih hpiece
      · next hc =>
          obtain ⟨first, others, hsplit⟩ :=
            List.exists_cons_of_ne_nil (List.splitOn_ne_nil separator rest)
          rw [hsplit, List.modifyHead_cons] at hpiece
          rw [hsplit] at ih
          rcases List.mem_cons.mp hpiece with rfl | hpiece
          · rw [List.mem_cons, not_or]
            exact ⟨fun hsame => hc (beq_iff_eq.mpr hsame.symm), ih List.mem_cons_self⟩
          · exact ih (List.mem_cons_of_mem _ hpiece)

theorem splitOn_flatMap_concat {separator : Char} {lines : List (List Char)}
    (hlines : ∀ line ∈ lines, separator ∉ line) :
    (lines.flatMap (· ++ [separator])).splitOn separator = lines ++ [[]] := by
  induction lines with
  | nil => rfl
  | cons line rest ih =>
      rw [List.forall_mem_cons] at hlines
      rw [List.flatMap_cons, List.append_assoc, List.singleton_append,
        List.splitOn_append_cons_self_of_not_mem hlines.1, ih hlines.2, List.cons_append]

theorem splitOnce_eq_some_iff {mark : Char} {before behind : List Char} :
    splitOnce mark chars = some (before, behind) ↔
      mark ∉ before ∧ chars = before ++ mark :: behind := by
  unfold splitOnce
  constructor
  · intro hsplit
    have hwhole := List.takeWhile_append_dropWhile (p := (· != mark)) (l := chars)
    have hkept : mark ∉ chars.takeWhile (· != mark) := fun hmem =>
      bne_iff_ne.mp (List.mem_takeWhile_imp (p := (· != mark)) hmem) rfl
    split at hsplit
    · cases hsplit
    · next c rest hdrop =>
        obtain ⟨rfl, rfl⟩ := Prod.mk.inj (Option.some.inj hsplit)
        have hhead := List.head_dropWhile_not (· != mark) (l := chars) (by simp [hdrop])
        obtain rfl : c = mark := by simpa [hdrop] using hhead
        rw [hdrop] at hwhole
        exact ⟨hkept, hwhole.symm⟩
  · rintro ⟨hmark, rfl⟩
    have hbefore : ∀ c ∈ before, (c != mark) = true := fun c hc =>
      bne_iff_ne.mpr fun hsame => hmark (hsame ▸ hc)
    have hstop : ¬(mark != mark) = true := fun hne => bne_iff_ne.mp hne rfl
    rw [List.dropWhile_append_of_pos hbefore, List.takeWhile_append_of_pos hbefore,
      List.dropWhile_cons_of_neg (p := (· != mark)) hstop,
      List.takeWhile_cons_of_neg (p := (· != mark)) hstop, List.append_nil]

/-- A text that neither starts nor ends with a blank. -/
structure IsTrimmed (chars : List Char) : Prop where
  head : ∀ c ∈ chars.head?, isBlank c = false
  last : ∀ c ∈ chars.getLast?, isBlank c = false

theorem trimEndChars_eq (chars : List Char) : trimEndChars chars = chars.rdropWhile isBlank := rfl

theorem isPrefix_trimChars (chars : List Char) : trimChars chars <+: trimStartChars chars :=
  List.rdropWhile_prefix isBlank (trimStartChars chars)

theorem trimChars_sublist (chars : List Char) : (trimChars chars).Sublist chars :=
  (isPrefix_trimChars chars).sublist.trans (List.dropWhile_sublist _)

theorem trimStartChars_of_head (hhead : ∀ c ∈ chars.head?, isBlank c = false) :
    trimStartChars chars = chars := by
  cases chars with
  | nil => rfl
  | cons c rest =>
      have hc : isBlank c = false := hhead c rfl
      exact List.dropWhile_cons_of_neg (by rw [hc]; exact nofun)

theorem isTrimmed_trimChars (chars : List Char) : IsTrimmed (trimChars chars) := by
  constructor
  case head =>
    intro c hc
    obtain ⟨rest, hrest⟩ := isPrefix_trimChars chars
    have hstart : (trimStartChars chars).head? = some c := by
      rw [← hrest, List.head?_append, hc]
      rfl
    have hfirst := List.head?_dropWhile_not isBlank chars
    rw [show chars.dropWhile isBlank = trimStartChars chars from rfl, hstart] at hfirst
    exact hfirst
  case last =>
    intro c hc
    obtain ⟨hne, rfl⟩ := List.mem_getLast?_eq_getLast hc
    exact Bool.eq_false_iff.mpr (List.rdropWhile_last_not isBlank _ hne)

theorem IsTrimmed.trimChars_eq (htrimmed : IsTrimmed chars) : trimChars chars = chars := by
  have hend : chars.rdropWhile isBlank = chars := by
    refine List.rdropWhile_eq_self_iff.mpr fun hne => ?_
    rw [htrimmed.last _ (List.getLast?_eq_getLast_of_ne_nil hne)]
    exact nofun
  rw [trimChars, trimStartChars_of_head htrimmed.head, trimEndChars_eq, hend]

theorem trimChars_concat (front : List Char) {c : Char} (hc : isBlank c = true) :
    trimChars (front ++ [c]) = trimChars front := by
  simp only [trimChars, trimStartChars, trimEndChars_eq, List.dropWhile_append]
  split
  · next hempty =>
      rw [List.isEmpty_iff] at hempty
      rw [hempty, List.dropWhile_cons_of_pos hc]
      rfl
  · exact List.rdropWhile_concat_pos _ _ _ hc

theorem trimChars_dropCarriageReturn (line : List Char) :
    trimChars (dropCarriageReturn line) = trimChars line := by
  unfold dropCarriageReturn
  split
  · next hlast =>
      obtain ⟨front, hline⟩ := List.getLast?_eq_some_iff.mp hlast
      rw [hline, List.dropLast_concat]
      exact (trimChars_concat front (by decide)).symm
  · rfl

theorem filterMap_lines {α : Type} {read : List Char → Option α} (hempty : read [] = none)
    (htrim : ∀ line other, trimChars line = trimChars other → read line = read other)
    (chars : List Char) : (lines chars).filterMap read = (chars.splitOn '\n').filterMap read := by
  obtain ⟨front, last, hparts⟩ : ∃ front last, chars.splitOn '\n' = front ++ [last] :=
    ⟨_, _, (List.dropLast_append_getLast (List.splitOn_ne_nil '\n' chars)).symm⟩
  have hfront : (front.map dropCarriageReturn).filterMap read = front.filterMap read := by
    rw [List.filterMap_map]
    exact congrArg (front.filterMap ·)
      (funext fun line => htrim _ _ (trimChars_dropCarriageReturn line))
  simp only [lines, hparts, List.dropLast_concat, List.getLast?_concat, List.filterMap_append]
  cases last with
  | nil => rw [List.filterMap_cons_none hempty, List.filterMap_nil, List.append_nil, hfront]
  | cons c rest => rw [List.filterMap_append, hfront]

end BrightScript.Text
