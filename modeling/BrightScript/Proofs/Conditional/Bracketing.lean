import BrightScript.Proofs.Conditional.Passage

namespace BrightScript.Conditional

/-- Behind a passage: the end of the text, or a line that continues or closes an `#if`. -/
def Behind : List Line → Prop
  | [] => True
  | line :: _ => ¬ line.role.IsPlain ∧ ∀ condition, line.role ≠ .opening condition

theorem behind_of_closing {line : Line} (hline : line.role = .closing) (rest : List Line) :
    Behind (line :: rest) := by
  simp [Behind, hline, Role.IsPlain]

theorem Branches.behind_lines (branches : Branches) (rest : List Line) :
    Behind (branches.lines ++ rest) := by
  cases branches with
  | closing line hline => simp [Branches.lines, Behind, hline, Role.IsPlain]
  | elseIf line condition hline => simp [Branches.lines, Behind, hline, Role.IsPlain]
  | otherwise line hline => simp [Branches.lines, Behind, hline, Role.IsPlain]

mutual

theorem Passage.eq_of_lines_append : ∀ {passage passage' : Passage} {rest rest' : List Line},
    Behind rest → Behind rest' → passage.lines ++ rest = passage'.lines ++ rest' →
      passage = passage' ∧ rest = rest'
  | .nil, .nil, rest, rest', _, _, hlines => ⟨rfl, hlines⟩
  | .nil, .line line hline _, rest, rest', hrest, _, hlines => by
      obtain rfl : rest = _ := hlines
      exact absurd hline hrest.1
  | .nil, .choice _ condition hopening .., rest, rest', hrest, _, hlines => by
      obtain rfl : rest = _ := hlines
      exact absurd hopening (hrest.2 condition)
  | .line line hline _, .nil, rest, rest', _, hrest', hlines => by
      obtain rfl : rest' = _ := hlines.symm
      exact absurd hline hrest'.1
  | .choice _ condition hopening .., .nil, rest, rest', _, hrest', hlines => by
      obtain rfl : rest' = _ := hlines.symm
      exact absurd hopening (hrest'.2 condition)
  | .line line hline later, .line line' hline' later', rest, rest', hrest, hrest', hlines => by
      obtain ⟨rfl, hlater⟩ := List.cons.inj hlines
      obtain ⟨rfl, rfl⟩ := Passage.eq_of_lines_append hrest hrest' hlater
      exact ⟨rfl, rfl⟩
  | .line line hline later, .choice opening condition hopening .., rest, rest', _, _, hlines => by
      obtain ⟨rfl, -⟩ := List.cons.inj hlines
      rw [hopening] at hline
      exact hline.elim
  | .choice opening condition hopening .., .line line hline later, rest, rest', _, _, hlines => by
      obtain ⟨rfl, -⟩ := List.cons.inj hlines
      rw [hopening] at hline
      exact hline.elim
  | .choice opening condition hopening body branches later,
    .choice opening' condition' hopening' body' branches' later',
    rest, rest', hrest, hrest', hlines => by
      simp only [Passage.lines, List.cons_append, List.append_assoc] at hlines
      obtain ⟨rfl, hlater⟩ := List.cons.inj hlines
      obtain rfl : condition = condition' := Role.opening.inj (hopening.symm.trans hopening')
      obtain ⟨rfl, hbranches⟩ := Passage.eq_of_lines_append (branches.behind_lines _)
        (branches'.behind_lines _) hlater
      obtain ⟨rfl, hrests⟩ := Branches.eq_of_lines_append hbranches
      obtain ⟨rfl, rfl⟩ := Passage.eq_of_lines_append hrest hrest' hrests
      exact ⟨rfl, rfl⟩

theorem Branches.eq_of_lines_append : ∀ {branches branches' : Branches} {rest rest' : List Line},
    branches.lines ++ rest = branches'.lines ++ rest' → branches = branches' ∧ rest = rest'
  | .closing line hline, .closing line' hline', rest, rest', hlines => by
      obtain ⟨rfl, rfl⟩ := List.cons.inj hlines
      exact ⟨rfl, rfl⟩
  | .elseIf line condition hline body branches, .elseIf line' condition' hline' body' branches',
    rest, rest', hlines => by
      simp only [Branches.lines, List.cons_append, List.append_assoc] at hlines
      obtain ⟨rfl, hlater⟩ := List.cons.inj hlines
      obtain rfl : condition = condition' := Role.elseIf.inj (hline.symm.trans hline')
      obtain ⟨rfl, hbranches⟩ := Passage.eq_of_lines_append (branches.behind_lines _)
        (branches'.behind_lines _) hlater
      obtain ⟨rfl, rfl⟩ := Branches.eq_of_lines_append hbranches
      exact ⟨rfl, rfl⟩
  | .otherwise line hline body closing hclosing, .otherwise line' hline' body' closing' hclosing',
    rest, rest', hlines => by
      simp only [Branches.lines, List.cons_append, List.append_assoc] at hlines
      obtain ⟨rfl, hlater⟩ := List.cons.inj hlines
      obtain ⟨rfl, hclosings⟩ := Passage.eq_of_lines_append (behind_of_closing hclosing _)
        (behind_of_closing hclosing' _) hlater
      obtain ⟨rfl, rfl⟩ := List.cons.inj hclosings
      exact ⟨rfl, rfl⟩
  | .closing line hline, .elseIf line' _ hline' .., rest, rest', hlines
  | .closing line hline, .otherwise line' hline' .., rest, rest', hlines
  | .elseIf line _ hline .., .closing line' hline', rest, rest', hlines
  | .elseIf line _ hline .., .otherwise line' hline' .., rest, rest', hlines
  | .otherwise line hline .., .closing line' hline', rest, rest', hlines
  | .otherwise line hline .., .elseIf line' _ hline' .., rest, rest', hlines => by
      obtain ⟨rfl, -⟩ := List.cons.inj hlines
      cases hline.symm.trans hline'

end

theorem Passage.eq_of_lines {passage passage' : Passage} (hlines : passage.lines = passage'.lines) :
    passage = passage' := by
  have happend : passage.lines ++ [] = passage'.lines ++ [] := by rw [hlines]
  have hnone : Behind [] := trivial
  exact (eq_of_lines_append hnone hnone happend).1

/-- Lines that complete a text in which the given `#if`s are open, the innermost first: the branch
that is under way, the branches behind it, and so on outwards. -/
def Completes : List Branching → List Line → Prop
  | [], lines => ∃ passage : Passage, passage.lines = lines
  | branching :: outer, lines =>
    ∃ (body : Passage) (branches : Branches) (rest : List Line),
      lines = body.lines ++ (branches.lines ++ rest) ∧
        (branching.sawElse = true → ∃ line hline, branches = .closing line hline) ∧
        Completes outer rest

namespace Completes

variable {line : Line} {lines : List Line} {branchings outer : List Branching}
variable {branching next : Branching}

theorem plain (hline : line.role.IsPlain) (hlines : Completes branchings lines) :
    Completes branchings (line :: lines) := by
  cases branchings with
  | nil =>
      obtain ⟨passage, rfl⟩ := hlines
      exact ⟨.line line hline passage, rfl⟩
  | cons branching outer =>
      obtain ⟨body, branches, rest, rfl, hlast, hrest⟩ := hlines
      exact ⟨.line line hline body, branches, rest, rfl, hlast, hrest⟩

theorem opening {condition : List Token} (hline : line.role = .opening condition)
    (hlines : Completes (next :: branchings) lines) : Completes branchings (line :: lines) := by
  obtain ⟨body, branches, rest, rfl, -, hrest⟩ := hlines
  cases branchings with
  | nil =>
      obtain ⟨passage, rfl⟩ := hrest
      exact ⟨.choice line condition hline body branches passage, rfl⟩
  | cons branching outer =>
      obtain ⟨body', branches', rest, rfl, hlast, hrest⟩ := hrest
      refine ⟨.choice line condition hline body branches body', branches', rest, ?_, hlast, hrest⟩
      simp only [Passage.lines, List.cons_append, List.append_assoc]

theorem elseIf {condition : List Token} (hline : line.role = .elseIf condition)
    (hsaw : branching.sawElse = false) (hlines : Completes (next :: outer) lines) :
    Completes (branching :: outer) (line :: lines) := by
  obtain ⟨body, branches, rest, rfl, -, hrest⟩ := hlines
  refine ⟨.nil, .elseIf line condition hline body branches, rest, ?_, ?_, hrest⟩
  · simp only [Passage.lines, Branches.lines, List.nil_append, List.cons_append, List.append_assoc]
  · rw [hsaw]
    exact fun h => nomatch h

theorem otherwise (hline : line.role = .otherwise) (hsaw : branching.sawElse = false)
    (hnext : next.sawElse = true) (hlines : Completes (next :: outer) lines) :
    Completes (branching :: outer) (line :: lines) := by
  obtain ⟨body, branches, rest, rfl, hlast, hrest⟩ := hlines
  obtain ⟨closing, hclosing, rfl⟩ := hlast hnext
  refine ⟨.nil, .otherwise line hline body closing hclosing, rest, ?_, ?_, hrest⟩
  · simp only [Passage.lines, Branches.lines, List.nil_append, List.cons_append, List.append_assoc]
  · rw [hsaw]
    exact fun h => nomatch h

theorem closing (hline : line.role = .closing) (hlines : Completes outer lines) :
    Completes (branching :: outer) (line :: lines) :=
  ⟨.nil, .closing line hline, lines, rfl, fun _ => ⟨line, hline, rfl⟩, hlines⟩

end Completes

end BrightScript.Conditional
