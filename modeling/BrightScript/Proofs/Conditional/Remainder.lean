import Mathlib.Data.List.Forall2
import BrightScript.Proofs.Conditional.Selection

namespace BrightScript.Conditional

/-- Whether a line starts with a directive. -/
def Line.isDirective : Line → Bool
  | ⟨.directive _, _⟩ :: _ => true
  | _ => false

theorem role_eq_text_iff {line : Line} : line.role = .text ↔ line.isDirective = false := by
  unfold Line.role Line.isDirective
  split
  · simp [Role.ofDirective_ne_text]
  · simp

/-- What may be left of a line: all of it if it does not start with a directive, or its line
break. -/
inductive Line.Leaves : Line → Line → Prop
  | whole {line : Line} (htext : line.isDirective = false) : Leaves line line
  | lineBreak (line : Line) : Leaves line (lineBreaks line)

namespace Line.Leaves

variable {line left : Line}

theorem sublist (hleft : line.Leaves left) : left.Sublist line := by
  cases hleft with
  | whole htext => exact .refl line
  | lineBreak => exact List.filter_sublist

theorem lineBreaks_eq (hleft : line.Leaves left) : lineBreaks left = lineBreaks line := by
  cases hleft with
  | whole htext => rfl
  | lineBreak => simp [lineBreaks]

theorem isDirective_eq_false (hleft : line.Leaves left) : left.isDirective = false := by
  cases hleft with
  | whole htext => exact htext
  | lineBreak =>
      unfold Line.isDirective
      split
      · next directive span rest hstart =>
          have hmem : ⟨.directive directive, span⟩ ∈ lineBreaks line := by simp [hstart]
          simp [lineBreaks] at hmem
      · rfl

end Line.Leaves

theorem leaves_processLine (manifest : Manifest) (state : State) (line : Line) :
    line.Leaves (processLine manifest state line).kept := by
  by_cases hrole : line.role = .text
  · rw [processLine_text hrole]
    dsimp only
    split
    · exact .whole (role_eq_text_iff.mp hrole)
    · exact .lineBreak line
  · obtain ⟨directive, arguments, span, -, hprocess⟩ := exists_directive rfl hrole
    rw [hprocess]
    exact .lineBreak line

theorem exists_leaves_processLines (manifest : Manifest) (state : State) (lines : List Line) :
    ∃ left, List.Forall₂ Line.Leaves lines left ∧
      (processLines manifest state lines).kept = left.flatten := by
  induction lines generalizing state with
  | nil => exact ⟨[], .nil, rfl⟩
  | cons line lines ih =>
      obtain ⟨left, hleft, hkept⟩ := ih (processLine manifest state line).state
      refine ⟨_, .cons (leaves_processLine manifest state line) hleft, ?_⟩
      rw [processLines, hkept, List.flatten_cons]

section Left

variable {lines left : List Line}

theorem sublist_flatten_of_leaves (hleft : List.Forall₂ Line.Leaves lines left) :
    left.flatten.Sublist lines.flatten := by
  induction hleft with
  | nil => exact .slnil
  | cons hline _ ih => exact hline.sublist.append ih

theorem lineBreaks_flatten_of_leaves (hleft : List.Forall₂ Line.Leaves lines left) :
    lineBreaks left.flatten = lineBreaks lines.flatten := by
  induction hleft with
  | nil => rfl
  | cons hline _ ih =>
      rw [List.flatten_cons, List.flatten_cons, lineBreaks, lineBreaks, List.filter_append,
        List.filter_append]
      exact congrArg₂ (· ++ ·) hline.lineBreaks_eq ih

theorem isDirective_of_leaves (hleft : List.Forall₂ Line.Leaves lines left) :
    ∀ line ∈ left, Line.isDirective line = false := by
  induction hleft with
  | nil => exact List.forall_mem_nil _
  | cons hline _ ih => exact List.forall_mem_cons.mpr ⟨hline.isDirective_eq_false, ih⟩

theorem ruled_of_leaves (hlines : Ruled lines) (hleft : List.Forall₂ Line.Leaves lines left) :
    Ruled (left.filter fun line => !line.isEmpty) := by
  induction hlines generalizing left with
  | nil =>
      cases hleft
      exact .nil
  | @last words hwords hplain =>
      obtain ⟨last, _, hlast, hnil, rfl⟩ := List.forall₂_cons_left_iff.mp hleft
      cases hnil
      cases hlast with
      | whole htext =>
          rw [List.filter_cons_of_pos (by simp [hwords])]
          exact .last hwords hplain
      | lineBreak =>
          have hnone : lineBreaks words = [] := by
            simpa [lineBreaks, List.filter_eq_nil_iff] using hplain
          rw [hnone]
          exact .nil
  | @line words lineBreak lines hplain hbreak _ ih =>
      obtain ⟨first, rest, hfirst, hrest, rfl⟩ := List.forall₂_cons_left_iff.mp hleft
      have hnone : lineBreaks words = [] := by
        simpa [lineBreaks, List.filter_eq_nil_iff] using hplain
      cases hfirst with
      | whole htext =>
          rw [List.filter_cons_of_pos (by simp)]
          exact .line hplain hbreak (ih hrest)
      | lineBreak =>
          have honly : lineBreaks (words ++ [lineBreak]) = [] ++ [lineBreak] := by
            rw [← hnone]
            simp [lineBreaks, hbreak]
          rw [honly, List.filter_cons_of_pos (by simp)]
          exact .line (List.forall_mem_nil _) hbreak (ih hrest)

end Left

theorem processLines_text {lines : List Line} (htext : ∀ line ∈ lines, line.isDirective = false)
    (manifest : Manifest) {state : State} (hactive : state.active = true) :
    processLines manifest state lines = ⟨state, lines.flatten, []⟩ := by
  induction lines with
  | nil => rfl
  | cons line lines ih =>
      obtain ⟨hline, hlines⟩ := List.forall_mem_cons.mp htext
      rw [processLines, processLine_text (role_eq_text_iff.mpr hline)]
      simp only [hactive, if_true, ih hlines, List.flatten_cons, List.nil_append]

/-- A selection keeps the lines of a text: what is left is some of its tokens in their places, all
line breaks among them. Each line of what is left is a line of the text that does not start with a
directive, or the line break of a line; a last line without a line break may be gone. So selecting
again changes nothing, under any manifest. -/
theorem select_keeps_lines {manifest : Manifest} {lexemes kept : List Lexeme}
    (hselect : select manifest lexemes = .ok kept) :
    kept.Sublist lexemes ∧
    lineBreaks kept = lineBreaks lexemes ∧
    (∃ left, List.Forall₂ Line.Leaves (splitLines lexemes) left ∧
      splitLines kept = left.filter fun line => !line.isEmpty) ∧
    (∀ line ∈ splitLines kept, Line.isDirective line = false) ∧
    ∀ other : Manifest, select other kept = .ok kept := by
  obtain ⟨-, -, rfl⟩ := select_eq_ok_iff.mp hselect
  obtain ⟨left, hleft, hkept⟩ := exists_leaves_processLines manifest {} (splitLines lexemes)
  rw [hkept]
  have hlines : splitLines left.flatten = left.filter fun line => !line.isEmpty :=
    splitLines_eq_iff.mpr ⟨ruled_of_leaves (ruled_splitLines lexemes) hleft,
      List.flatten_filter_not_isEmpty⟩
  have htext : ∀ line ∈ splitLines left.flatten, Line.isDirective line = false := by
    intro line hline
    rw [hlines] at hline
    exact isDirective_of_leaves hleft line (List.mem_of_mem_filter hline)
  refine ⟨?_, ?_, ⟨left, hleft, hlines⟩, htext, fun other => ?_⟩
  · rw [← flatten_splitLines lexemes]
    exact sublist_flatten_of_leaves hleft
  · rw [lineBreaks_flatten_of_leaves hleft, flatten_splitLines]
  · rw [select_eq_ok_iff, processLines_text htext other rfl]
    exact ⟨rfl, rfl, flatten_splitLines left.flatten⟩

/-- A line in each branch of an `#if`, whose end has no line break. -/
theorem select_keeps_lines_of_branches :
    let lexemes : List Lexeme := [
      ⟨.directive "if", 0, 3⟩, ⟨.keyword .not, 4, 7⟩, ⟨.keyword .true, 8, 12⟩, ⟨.newline, 12, 13⟩,
      ⟨.identifier "a", 13, 14⟩, ⟨.newline, 14, 15⟩,
      ⟨.directive "else", 15, 20⟩, ⟨.newline, 20, 21⟩,
      ⟨.identifier "b", 21, 22⟩, ⟨.newline, 22, 23⟩,
      ⟨.directive "endif", 23, 29⟩]
    let kept : List Lexeme := [⟨.newline, 12, 13⟩, ⟨.newline, 14, 15⟩, ⟨.newline, 20, 21⟩,
      ⟨.identifier "b", 21, 22⟩, ⟨.newline, 22, 23⟩]
    select .empty lexemes = .ok kept ∧ kept.Sublist lexemes ∧
      ∀ other : Manifest, select other kept = .ok kept := by
  intro lexemes kept
  have hselect : select .empty lexemes = .ok kept := by decide +kernel
  obtain ⟨hsublist, -, -, -, hagain⟩ := select_keeps_lines hselect
  exact ⟨hselect, hsublist, hagain⟩

end BrightScript.Conditional
