import BrightScript.Proofs.Program.Linking
import BrightScript.Proofs.Syntax.Continuation

open BrightScript.Parser

namespace BrightScript.Grammar

/-- Separators, possibly none, up to something else. -/
def Separated (input start : List Lexeme) : Prop :=
  ∃ marks, Steps mark input marks start ∧ Next continues start

/-- A statement of a program, up to the next one. -/
def line : Parser Statement := do
  let read ← statement
  let _ ← separator.orElse (do atEnd; return [])
  return read

section Programs

variable {input start rest others : List Lexeme} {statements : List Statement} {place : Span}

theorem exists_separated (input : List Lexeme) : ∃ start, Separated input start := by
  obtain ⟨⟨marks, start⟩, hmany⟩ := Option.ne_none_iff_exists'.mp (not_refuses_many mark input)
  obtain ⟨hsteps, hrefuses⟩ := steps_of_many takes_mark hmany
  exact ⟨start, marks, hsteps, next_of_refuses_mark hrefuses⟩

theorem Separated.reads (hseparated : Separated input start) (hstarts : Starts separates input) :
    separator.Reads input start fun _ => True := by
  obtain ⟨marks, hsteps, hnext⟩ := hseparated
  cases hsteps with
  | nil =>
      obtain ⟨hseparates, -⟩ := hstarts
      exact absurd hseparates (continues_iff.mp (hnext _ rfl))
  | @cons _ middle _ value marks htaken _ hothers =>
      have hfirst : mark.Reads input middle fun _ => True := ⟨value, htaken, trivial⟩
      exact hfirst.bind fun _ _ => (hothers.many (refuses_mark hnext)).bind fun _ _ => .pure trivial

theorem starts_or_next (input : List Lexeme) : Starts separates input ∨ Next continues input := by
  cases input with
  | nil => exact .inr .nil
  | cons lexeme tail =>
      by_cases hseparates : separates lexeme.token
      · exact .inl ⟨hseparates, trivial⟩
      · exact .inr (.cons (continues_iff.mpr hseparates))

theorem Separated.reads_optional (hseparated : Separated input start) :
    separator.optional.Reads input start fun _ => True := by
  rcases starts_or_next input with hstarts | hnext
  · exact Reads.imp (hseparated.reads hstarts).optional fun _ _ => trivial
  · obtain ⟨marks, hsteps, -⟩ := hseparated
    cases hsteps with
    | nil => exact Reads.imp (refuses_separator hnext).optional fun _ _ => trivial
    | cons htaken => exact absurd (refuses_mark hnext) (not_refuses_of_result htaken)

theorem separated_of_optional {marks : Option (List Unit)}
    (hread : (separator.optional input).result = some (marks, start)) : Separated input start := by
  obtain ⟨other, hseparated⟩ := exists_separated input
  obtain ⟨value, hvalue, -⟩ := hseparated.reads_optional
  rw [hread] at hvalue
  cases hvalue
  exact hseparated

theorem separated_of_separator {marks : List Unit}
    (hread : (separator input).result = some (marks, start)) :
    Starts separates input ∧ Separated input start := by
  have hstarts : Starts separates input := (starts_or_next input).resolve_right fun hnext =>
    not_refuses_of_result hread (refuses_separator hnext)
  obtain ⟨other, hseparated⟩ := exists_separated input
  obtain ⟨value, hvalue, -⟩ := hseparated.reads hstarts
  rw [hread] at hvalue
  cases hvalue
  exact ⟨hstarts, hseparated⟩

theorem Separated.append (hseparated : Separated input []) (hothers : Separated others start) :
    Separated (input ++ ⟨.newline, place⟩ :: others) start := by
  obtain ⟨marks, hsteps, -⟩ := hseparated
  obtain ⟨further, hfurther, hnext⟩ := hothers
  have hbreak : mark.Reads (⟨.newline, place⟩ :: others) others fun _ => True :=
    Reads.orElse reads_expect _
  obtain ⟨value, hvalue, -⟩ := hbreak
  have hline : Steps mark (⟨.newline, place⟩ :: others) (value :: further) start :=
    .cons hvalue (Nat.lt_succ_self _) hfurther
  exact ⟨marks ++ value :: further, ((extends_mark _).steps hsteps).append hline, hnext⟩

theorem Separated.append_of_ne_nil (hseparated : Separated input start) (hne : start ≠ [])
    (more : List Lexeme) : Separated (input ++ more) (start ++ more) := by
  obtain ⟨marks, hsteps, hnext⟩ := hseparated
  refine ⟨marks, (extends_mark _).steps hsteps, ?_⟩
  obtain ⟨lexeme, tail, rfl⟩ := List.exists_cons_of_ne_nil hne
  exact .cons (hnext lexeme rfl)

theorem takes_line : line.Takes fun taken _ => taken ≠ [] := by
  have hatEnd : atEnd.Advances := by
    rintro (_ | ⟨lexeme, rest⟩) _ _ ⟨⟩
    exact ⟨[], rfl, trivial⟩
  have hending : (separator.orElse (do atEnd; return [])).Advances :=
    Takes.orElse advances_separator (hatEnd.bind fun _ => .pure _)
  exact built_statement.bind fun _ _ hbuilt => hending.skip fun _ _ => .pure
    (List.append_ne_nil_of_left_ne_nil hbuilt.ne_nil _)

theorem steps_of_program (hread : (program input).result = some (statements, rest)) :
    ∃ start, Separated input start ∧ Steps line start statements [] := by
  obtain ⟨⟨marks, start⟩, hmarks, hread⟩ := Option.bind_eq_some_iff.mp
    ((result_bind _ _ _).symm.trans hread)
  obtain ⟨⟨lines, behind⟩, hlines, hread⟩ := Option.bind_eq_some_iff.mp
    ((result_bind (many line) _ start).symm.trans hread)
  cases behind with
  | nil =>
      cases hread
      exact ⟨start, separated_of_optional hmarks, (steps_of_many takes_line hlines).1⟩
  | cons => cases hread

theorem reads_program_of_steps (hseparated : Separated input start)
    (hsteps : Steps line start statements []) : program.Reads input [] (· = statements) := by
  have hend : statement.Refuses [] := Refuses.fix (refuses_statementOf .nil)
  refine hseparated.reads_optional.bind fun _ _ => ?_
  refine Reads.bind (hsteps.many (hend.bind _)) ?_
  rintro _ rfl
  exact reads_atEnd.bind fun _ _ => .pure rfl

theorem result_line {value : Statement} {behind : List Lexeme}
    (hread : (statement input).result = some (value, behind)) (hstarts : Starts separates behind)
    (hseparated : Separated behind start) : (line input).result = some (value, start) := by
  have hstatement : statement.Reads input behind (· = value) := ⟨value, hread, rfl⟩
  have hline : line.Reads input start (· = value) :=
    hstatement.bind fun _ hvalue =>
      ((hseparated.reads hstarts).orElse _).bind fun _ _ => .pure hvalue
  obtain ⟨_, hresult, rfl⟩ := hline
  exact hresult

theorem statement_of_line {value : Statement} (hread : (line input).result = some (value, rest)) :
    ∃ behind, (statement input).result = some (value, behind) ∧
      (Starts separates behind ∧ Separated behind rest ∨ behind = [] ∧ rest = []) := by
  obtain ⟨⟨read, behind⟩, hstatement, hread⟩ := Option.bind_eq_some_iff.mp
    ((result_bind _ _ _).symm.trans hread)
  obtain ⟨⟨marks, after⟩, hending, hread⟩ := Option.bind_eq_some_iff.mp
    ((result_bind _ _ _).symm.trans hread)
  cases hread
  refine ⟨behind, hstatement, ?_⟩
  rw [result_orElse, Option.or_eq_some_iff] at hending
  rcases hending with hseparator | ⟨-, hatEnd⟩
  · exact .inl (separated_of_separator hseparator)
  · cases behind with
    | nil =>
        cases hatEnd
        exact .inr ⟨rfl, rfl⟩
    | cons => cases hatEnd

theorem length_of_line {value : Statement} (hread : (line input).result = some (value, rest)) :
    rest.length < input.length := by
  obtain ⟨taken, rfl, hne⟩ := takes_line input value rest hread
  rw [List.length_append]
  exact Nat.lt_add_of_pos_left (List.length_pos_of_ne_nil hne)

/-- The lines of a program are read again, the last with the separators of what follows. -/
theorem steps_joined (hsteps : Steps line input statements rest) (hrest : rest = [])
    (hne : input ≠ []) (hothers : Separated others start) :
    Steps line (input ++ ⟨.newline, place⟩ :: others) statements start := by
  have hmore : Next (· = .newline) (⟨.newline, place⟩ :: others) := .cons rfl
  have hbreak : Separated (⟨.newline, place⟩ :: others) start :=
    Separated.append ⟨[], .nil, .nil⟩ hothers
  induction hsteps with
  | nil => exact absurd hrest hne
  | @cons input middle rest value values htaken _ hvalues ih =>
      obtain ⟨behind, hstatement, hbehind⟩ := statement_of_line htaken
      have hnext : Next separates behind := by
        rcases hbehind with ⟨hstarts, -⟩ | ⟨rfl, -⟩
        · exact hstarts.next
        · exact .nil
      obtain ⟨-, hwider⟩ := extends_statement hmore input value behind hstatement hnext
      have hstarts : Starts separates (behind ++ ⟨.newline, place⟩ :: others) := by
        rcases hbehind with ⟨hstarts, -⟩ | ⟨rfl, -⟩
        · exact hstarts.append _
        · exact ⟨.inl rfl, trivial⟩
      cases middle with
      | nil =>
          have hlast : Separated (behind ++ ⟨.newline, place⟩ :: others) start := by
            rcases hbehind with ⟨-, hseparated⟩ | ⟨rfl, -⟩
            · exact hseparated.append hothers
            · exact hbreak
          have hline := result_line hwider hstarts hlast
          cases hvalues with
          | nil => exact .cons hline (length_of_line hline) .nil
          | cons _ hshorter => exact absurd hshorter (Nat.not_lt_zero _)
      | cons lexeme tail =>
          obtain ⟨-, hseparated⟩ := hbehind.resolve_right fun hempty => nomatch hempty.2
          have hline := result_line hwider hstarts
            (hseparated.append_of_ne_nil (List.cons_ne_nil _ _) _)
          exact .cons hline (length_of_line hline) (ih hrest (List.cons_ne_nil _ _))

theorem reads_joined (hfirst : (program input).result = some (statements, rest))
    {further : List Statement} {behind : List Lexeme}
    (hsecond : (program others).result = some (further, behind)) :
    program.Reads (input ++ ⟨.newline, place⟩ :: others) [] (· = statements ++ further) := by
  obtain ⟨middle, hseparated, hlines⟩ := steps_of_program hfirst
  obtain ⟨start, hothers, hfurther⟩ := steps_of_program hsecond
  cases middle with
  | nil =>
      cases hlines with
      | nil => exact reads_program_of_steps (hseparated.append hothers) hfurther
      | cons _ hshorter => exact absurd hshorter (Nat.not_lt_zero _)
  | cons lexeme tail =>
      refine reads_program_of_steps (hseparated.append_of_ne_nil (List.cons_ne_nil _ _) _) ?_
      exact (steps_joined hlines rfl (List.cons_ne_nil _ _) hothers).append hfurther

end Programs

end BrightScript.Grammar

namespace BrightScript

theorem LibrarySet.contains_foldl_insert {set : LibrarySet} {libraries : List Library}
    {library : Library} : (libraries.foldl LibrarySet.insert set).contains library = true ↔
      set.contains library = true ∨ library ∈ libraries := by
  induction libraries generalizing set with
  | nil => simp
  | cons first others ih =>
      have hinsert : (set.insert first).contains library = true ↔
          set.contains library = true ∨ library = first := by
        cases first <;> cases library <;> simp [LibrarySet.insert, LibrarySet.contains]
      rw [List.foldl_cons, ih, hinsert, List.mem_cons, or_assoc]

theorem LibrarySet.union_assoc (first second third : LibrarySet) :
    (first.union second).union third = first.union (second.union third) := by
  simp only [LibrarySet.union, Bool.or_assoc]

theorem contains_requestedLibraries {statements : List Statement} {library : Library} :
    (requestedLibraries statements).contains library = true ↔
      library ∈ statements.filterMap Statement.library? := by
  have hempty : LibrarySet.empty.contains library = false := by cases library <;> rfl
  rw [requestedLibraries, LibrarySet.contains_foldl_insert, hempty]
  simp

theorem requestedLibraries_append (statements others : List Statement) :
    requestedLibraries (statements ++ others) =
      (requestedLibraries statements).union (requestedLibraries others) := by
  refine LibrarySet.eq_of_contains fun library => Bool.eq_iff_iff.mpr ?_
  rw [LibrarySet.contains_union, Bool.or_eq_true, contains_requestedLibraries,
    contains_requestedLibraries, contains_requestedLibraries, List.filterMap_append,
    List.mem_append]

namespace LinkedProgram

/-- A unit with the given tokens after preprocessing. -/
def unitOf (path : String) (lexemes : List Lexeme) : LoadedUnit :=
  Compilation.loaded (Stages.parseTokens lexemes path).outcome path

theorem unitOf_of_parse {path : String} {lexemes : List Lexeme} {statements : List Statement}
    (hparse : Grammar.parse lexemes = .ok statements) :
    unitOf path lexemes = ⟨path, statements, false, requestedLibraries statements⟩ := by
  rw [unitOf, Stages.parseTokens, hparse]
  rfl

theorem requested_append (units others : List LoadedUnit) :
    requested (units ++ others) = (requested units).union (requested others) := by
  refine LibrarySet.eq_of_contains fun library => Bool.eq_iff_iff.mpr ?_
  rw [LibrarySet.contains_union, Bool.or_eq_true, contains_requested, contains_requested,
    contains_requested]
  simp only [List.mem_append, or_and_right, exists_or]

theorem requested_cons (path : String) (statements : List Statement) (units : List LoadedUnit) :
    requested (⟨path, statements, false, requestedLibraries statements⟩ :: units) =
      (requestedLibraries statements).union (requested units) := by
  have hone : requested [⟨path, statements, false, requestedLibraries statements⟩] =
      requestedLibraries statements := by
    cases statements with
    | nil => rfl
    | cons => exact LibrarySet.eq_of_contains fun library => by cases library <;> rfl
  rw [← List.singleton_append, requested_append, hone]

/-- The statements that units add to a program. -/
def contributed (units : List LoadedUnit) : List Statement :=
  (units.filter contributes).flatMap (·.statements)

theorem contributed_append (units others : List LoadedUnit) :
    contributed (units ++ others) = contributed units ++ contributed others := by
  rw [contributed, List.filter_append, List.flatMap_append]
  rfl

theorem contributed_cons (path : String) (statements : List Statement) (libraries : LibrarySet)
    (units : List LoadedUnit) :
    contributed (⟨path, statements, false, libraries⟩ :: units) =
      statements ++ contributed units := by
  cases statements <;> simp [contributed, contributes]

/-- Linking depends on the statements and the requests of the units, not on how they are divided. -/
theorem link_congr {units others : List LoadedUnit} (stages : Stages)
    (hcontributed : contributed units = contributed others)
    (hrequested : requested units = requested others) :
    (link stages units).1.statements = (link stages others).1.statements ∧
      (link stages units).1.libraries = (link stages others).1.libraries ∧
      (link stages units).2 = (link stages others).2 := by
  unfold contributed requested at *
  simp only [link, hcontributed, hrequested, and_self]

end LinkedProgram

/-- A list of tokens that is joined from two by a line break is read as the statements of the first
and then those of the second, at the same places. It asks for the libraries of both, and linking it
as one unit gives the same program as linking the two, whatever units stand around them. -/
theorem Grammar.parse_joined {first second : List Lexeme} {statements others : List Statement}
    (hfirst : parse first = .ok statements) (hsecond : parse second = .ok others) (place : Span) :
    parse (first ++ ⟨.newline, place⟩ :: second) = .ok (statements ++ others) ∧
      requestedLibraries (statements ++ others) =
        (requestedLibraries statements).union (requestedLibraries others) ∧
      ∀ (stages : Stages) (before after : List LoadedUnit) (path path' path'' : String),
        let joined := LinkedProgram.link stages (before ++
          LinkedProgram.unitOf path (first ++ ⟨.newline, place⟩ :: second) :: after)
        let apart := LinkedProgram.link stages (before ++
          LinkedProgram.unitOf path' first :: LinkedProgram.unitOf path'' second :: after)
        joined.1.statements = apart.1.statements ∧ joined.1.libraries = apart.1.libraries ∧
          joined.2 = apart.2 := by
  obtain ⟨rest, hread⟩ := exists_of_parse hfirst
  obtain ⟨behind, hother⟩ := exists_of_parse hsecond
  have hjoined : parse (first ++ ⟨.newline, place⟩ :: second) = .ok (statements ++ others) := by
    obtain ⟨_, hparse, rfl⟩ := parse_of_reads (reads_joined hread hother)
    exact hparse
  refine ⟨hjoined, requestedLibraries_append _ _, fun stages before after path path' path'' => ?_⟩
  rw [LinkedProgram.unitOf_of_parse hfirst, LinkedProgram.unitOf_of_parse hsecond,
    LinkedProgram.unitOf_of_parse hjoined]
  refine LinkedProgram.link_congr stages ?_ ?_
  · simp only [LinkedProgram.contributed_append, LinkedProgram.contributed_cons, List.append_assoc]
  · simp only [LinkedProgram.requested_append, LinkedProgram.requested_cons]
    rw [requestedLibraries_append, LibrarySet.union_assoc]

/-- The tokens of `x = [`, `1`, `] : return` on three lines. -/
def returningLines : List Lexeme :=
  [⟨.identifier "x", ⟨0, 1⟩⟩, ⟨.symbol .equal, ⟨2, 3⟩⟩, ⟨.symbol .squareOpen, ⟨4, 5⟩⟩,
    ⟨.newline, ⟨5, 6⟩⟩, ⟨.integer 1, ⟨6, 7⟩⟩, ⟨.newline, ⟨7, 8⟩⟩, ⟨.symbol .squareClose, ⟨8, 9⟩⟩,
    ⟨.symbol .colon, ⟨10, 11⟩⟩, ⟨.keyword .return, ⟨12, 18⟩⟩]

/-- The tokens of `(2)` on a line of its own. -/
def bracketedLine : List Lexeme :=
  [⟨.symbol .roundOpen, ⟨19, 20⟩⟩, ⟨.integer 2, ⟨20, 21⟩⟩, ⟨.symbol .roundClose, ⟨21, 22⟩⟩]

/-- The line break keeps the brackets from becoming what is returned. -/
theorem Grammar.parse_joined_returningLines :
    let assign : Statement := .assign ⟨0, 9⟩ "x" (.array ⟨4, 9⟩ [.literal ⟨6, 7⟩ (.integer 1)])
    let leave : Statement := .return ⟨12, 18⟩ none
    let value : Statement := .expression ⟨19, 22⟩ (.literal ⟨20, 21⟩ (.integer 2))
    parse returningLines = .ok [assign, leave] ∧ parse bracketedLine = .ok [value] ∧
      parse (returningLines ++ ⟨.newline, ⟨18, 19⟩⟩ :: bracketedLine) =
        .ok [assign, leave, value] := by
  intro assign leave value
  have hfirst : parse returningLines = .ok [assign, leave] := by with_unfolding_all rfl
  have hsecond : parse bracketedLine = .ok [value] := by with_unfolding_all rfl
  exact ⟨hfirst, hsecond, (parse_joined hfirst hsecond ⟨18, 19⟩).1⟩

end BrightScript
