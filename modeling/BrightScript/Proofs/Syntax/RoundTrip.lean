import BrightScript.Proofs.Syntax.Statements

open BrightScript.Parser

namespace BrightScript

namespace Parser

variable {α β : Type}

/-- All that a parser makes of inputs is good. -/
def Yields (parser : Parser α) (good : α → Prop) : Prop :=
  ∀ input value rest, (parser input).result = some (value, rest) → good value

namespace Yields

variable {parser : Parser α} {good : α → Prop}

theorem any (parser : Parser α) : parser.Yields fun _ => True :=
  fun _ _ _ _ => trivial

theorem pure {value : α} (hgood : good value) : (pure value : Parser α).Yields good := by
  rintro input _ rest ⟨⟩
  exact hgood

theorem imp {fine : α → Prop} (hparser : parser.Yields good)
    (himp : ∀ value, good value → fine value) : parser.Yields fine :=
  fun input value rest hresult => himp value (hparser input value rest hresult)

theorem bind {next : α → Parser β} {fine : β → Prop} (hfirst : parser.Yields good)
    (hnext : ∀ value, good value → (next value).Yields fine) : (parser >>= next).Yields fine := by
  intro input value rest hresult
  rw [result_bind, Option.bind_eq_some_iff] at hresult
  obtain ⟨⟨first, middle⟩, htaken, hothers⟩ := hresult
  exact hnext first (hfirst input first middle htaken) middle value rest hothers

theorem orElse {second : Parser α} (hfirst : parser.Yields good) (hsecond : second.Yields good) :
    (parser.orElse second).Yields good :=
  Ensures.orElse hfirst hsecond

theorem choice {parsers : List (Parser α)} (hparsers : ∀ parser ∈ parsers, parser.Yields good) :
    (Parser.choice parsers).Yields good :=
  Ensures.choice hparsers

theorem optional (hparser : parser.Yields good) :
    parser.optional.Yields fun value => ∀ taken ∈ value, good taken := by
  refine orElse (hparser.bind fun taken hgood => pure ?_) (pure ?_)
  · rintro _ ⟨⟩
    exact hgood
  · rintro _ ⟨⟩

theorem spanned (hparser : parser.Yields good) :
    (Parser.spanned parser).Yields fun taken => good taken.2 := by
  intro input value rest hresult
  rw [result_spanned, Option.map_eq_some_iff] at hresult
  obtain ⟨⟨taken, after⟩, htaken, heq⟩ := hresult
  cases heq
  exact hparser input taken after htaken

theorem many (hparser : parser.Yields good) :
    Yields (Parser.many parser) fun values => ∀ value ∈ values, good value := by
  intro input
  induction hlength : input.length using Nat.strong_induction_on generalizing input with
  | h length ih =>
      intro values rest hresult
      rw [result_many] at hresult
      split at hresult
      · cases hresult
        simp
      · next value middle htaken =>
          split at hresult
          · next hshorter =>
              rw [Option.map_eq_some_iff] at hresult
              obtain ⟨⟨others, after⟩, hothers, heq⟩ := hresult
              cases heq
              rw [List.forall_mem_cons]
              exact ⟨hparser input value middle htaken,
                ih _ (hlength ▸ hshorter) middle rfl others _ hothers⟩
          · cases hresult
            simp

theorem fix {ι : Type} {family : (ι → Parser α) → ι → Parser α}
    (hfamily : ∀ inner, (∀ index, (inner index).Yields good) →
      ∀ index, (family inner index).Yields good) (index : ι) :
    Yields (Parser.fix family index) good :=
  Ensures.fix hfamily index

end Yields

end Parser

theorem Expression.isPath_bare (value : Expression) : value.bare.isPath = value.isPath := by
  induction value using Expression.isPath.induct with
  | case1 => rfl
  | case2 span object name ih => rw [bare, isPath, isPath, ih]
  | case3 value hvariable hmember =>
      cases value with
      | «variable» span name => exact absurd rfl (hvariable span name)
      | member span object name => exact absurd rfl (hmember span object name)
      | _ => rfl

namespace Statement

theorem areWritable_iff {statements : List Statement} :
    areWritable statements = true ↔ ∀ statement ∈ statements, statement.isWritable = true := by
  induction statements with
  | nil => simp [areWritable]
  | cons first others ih => rw [areWritable, Bool.and_eq_true, ih, List.forall_mem_cons]

theorem areBranchesWritable_iff {branches : List (Expression × List Statement)} :
    areBranchesWritable branches = true ↔
      ∀ branch ∈ branches, areWritable branch.2 = true := by
  induction branches with
  | nil => simp [areBranchesWritable]
  | cons branch others ih => rw [areBranchesWritable, Bool.and_eq_true, ih, List.forall_mem_cons]

mutual

theorem isWritable_bare : ∀ statement : Statement, statement.bare.isWritable = statement.isWritable
  | .assignMember _ object _ _ => by
      rw [bare, isWritable, isWritable, Expression.isPath_bare]
  | .conditional _ branches otherwise => by
      rw [bare, isWritable, isWritable, areBranchesWritable_bare branches,
        isOtherwiseWritable_bare otherwise, bareBranches_eq_map, List.isEmpty_map]
  | .function _ _ _ body _ => by rw [bare, isWritable, isWritable, areWritable_bare body]
  | .library .. | .print .. | .assign .. | .expression .. | .return .. | .component .. => rfl

theorem areWritable_bare : ∀ statements : List Statement,
    areWritable (bareAll statements) = areWritable statements
  | [] => rfl
  | first :: others => by
      rw [bareAll, areWritable, areWritable, isWritable_bare first, areWritable_bare others]

theorem areBranchesWritable_bare : ∀ branches : List (Expression × List Statement),
    areBranchesWritable (bareBranches branches) = areBranchesWritable branches
  | [] => rfl
  | (_, body) :: others => by
      rw [bareBranches, areBranchesWritable, areBranchesWritable, areWritable_bare body,
        areBranchesWritable_bare others]

theorem isOtherwiseWritable_bare : ∀ otherwise : Option (List Statement),
    isOtherwiseWritable (bareOtherwise otherwise) = isOtherwiseWritable otherwise
  | none => rfl
  | some body => by
      rw [bareOtherwise, isOtherwiseWritable, isOtherwiseWritable, areWritable_bare body]

end

theorem library?_bare (statement : Statement) : statement.bare.library? = statement.library? := by
  cases statement <;> rfl

end Statement

theorem requestedLibraries_bare (statements : List Statement) :
    requestedLibraries (Statement.bareAll statements) = requestedLibraries statements := by
  rw [Statement.bareAll_eq_map, requestedLibraries, List.filterMap_map]
  congr 2
  funext statement
  exact Statement.library?_bare statement

namespace Grammar

theorem isPath_memberPath (root : Span × String) (path : List (Span × String)) :
    (memberPath root path).isPath = true := by
  induction path using List.reverseRecOn with
  | nil => rfl
  | append_singleton path step ih =>
      rw [memberPath, List.foldl_append, List.foldl_cons, List.foldl_nil, Expression.isPath]
      exact ih

theorem yields_library : library.Yields (·.isWritable = true) := by
  intro input value rest hresult
  rw [result_library, Option.bind_eq_some_iff] at hresult
  obtain ⟨taken, -, hknown⟩ := hresult
  split at hknown
  · next hpath =>
      cases hknown
      exact hpath
  · cases hknown

theorem yields_assignment : assignment.Yields (·.isWritable = true) := by
  refine (Yields.any _).bind ?_
  rintro ⟨span, root, path, value⟩ -
  dsimp only
  split
  · exact .pure rfl
  · exact .pure (isPath_memberPath root _)

section Nested

variable {inner : Parser Statement} (hinner : inner.Yields (·.isWritable = true))
include hinner

theorem yields_block : (block inner).Yields (Statement.areWritable · = true) := by
  refine (Yields.any separator).bind fun _ _ => ?_
  have hlines : Yields (many (do
      let read ← inner
      let _ ← separator
      return read)) fun reads => ∀ read ∈ reads, read.isWritable = true :=
    .many (hinner.bind fun read hread => (Yields.any separator).bind fun _ _ => .pure hread)
  exact hlines.imp fun _ => Statement.areWritable_iff.mpr

theorem yields_branch : (branch inner).Yields (Statement.areWritable ·.2 = true) := by
  refine (Yields.any expression).bind fun condition _ => ?_
  refine (Yields.any (optional (keyword .then))).bind fun _ _ => ?_
  exact (yields_block hinner).bind fun body hbody => .pure hbody

theorem yields_conditional : (conditional inner).Yields (·.isWritable = true) := by
  have hparts : Yields (do
      keyword .if
      let first ← branch inner
      let others ← many (do
        (keyword .elseIf).orElse (do keyword .else; keyword .if)
        branch inner)
      let otherwise ← optional (do keyword .else; block inner)
      orElse (do keyword .end; keyword .if) (keyword .endIf)
      return (first :: others, otherwise)) fun read =>
        (Statement.conditional .none read.1 read.2).isWritable = true := by
    refine (Yields.any (keyword .if)).bind fun _ _ => ?_
    refine (yields_branch hinner).bind fun first hfirst => ?_
    have hothers : Yields (many (do
        (keyword .elseIf).orElse (do keyword .else; keyword .if)
        branch inner)) fun others => ∀ branch ∈ others, Statement.areWritable branch.2 = true :=
      .many ((Yields.any _).bind fun _ _ => yields_branch hinner)
    have hotherwise : Yields (optional (do keyword .else; block inner)) fun otherwise =>
        ∀ body ∈ otherwise, Statement.areWritable body = true :=
      .optional ((Yields.any _).bind fun _ _ => yields_block hinner)
    refine Yields.bind hothers fun others hothers => ?_
    refine hotherwise.bind fun otherwise hotherwise => (Yields.any _).bind fun _ _ => .pure ?_
    rw [Statement.isWritable, Statement.areBranchesWritable, hfirst,
      Statement.areBranchesWritable_iff.mpr hothers]
    cases otherwise with
    | none => rfl
    | some body =>
        rw [Statement.isOtherwiseWritable, hotherwise body rfl]
        rfl
  exact hparts.spanned.bind fun read hread => .pure hread

theorem yields_function : (function inner).Yields (·.isWritable = true) := by
  have hparts : Yields (do
      let isSub ← orElse (do keyword .function; return false) (do keyword .sub; return true)
      let name ← identifier
      let names ← parameters
      let _ ← typeAnnotation.optional
      let body ← block inner
      keyword .end
      (keyword .function).orElse (keyword .sub)
      return (isSub, name, names, body)) fun read =>
        Statement.areWritable read.2.2.2 = true := by
    refine (Yields.any _).bind fun _ _ => (Yields.any _).bind fun _ _ => ?_
    refine (Yields.any _).bind fun _ _ => (Yields.any _).bind fun _ _ => ?_
    refine (yields_block hinner).bind fun body hbody => ?_
    exact (Yields.any _).bind fun _ _ => (Yields.any _).bind fun _ _ => .pure hbody
  exact hparts.spanned.bind fun read hread => .pure hread

theorem yields_statementOf : (statementOf inner).Yields (·.isWritable = true) := by
  refine .choice ?_
  simp only [List.forall_mem_cons, List.not_mem_nil, false_implies, implies_true, and_true]
  refine ⟨yields_library, (Yields.any _).bind fun _ _ => .pure rfl, yields_conditional hinner,
    yields_function hinner, (Yields.any _).bind fun _ _ => .pure rfl,
    (Yields.any _).bind fun _ _ => .pure rfl, yields_assignment,
    (Yields.any _).bind fun _ _ => .pure rfl⟩

end Nested

theorem yields_statement : statement.Yields (·.isWritable = true) :=
  Yields.fix (fun _ hinner _ => yields_statementOf (hinner ())) ()

theorem yields_program : program.Yields (Statement.areWritable · = true) := by
  refine (Yields.any _).bind fun _ _ => ?_
  have hlines : Yields (many (do
      let read ← statement
      let _ ← separator.orElse (do atEnd; return [])
      return read)) fun reads => ∀ read ∈ reads, read.isWritable = true :=
    .many (yields_statement.bind fun read hread => (Yields.any _).bind fun _ _ => .pure hread)
  refine Yields.bind hlines fun reads hreads => (Yields.any _).bind fun _ _ => .pure ?_
  exact Statement.areWritable_iff.mpr hreads

/-- Every program that is read can be written. -/
theorem areWritable_of_parse {lexemes : List Lexeme} {statements : List Statement}
    (hparse : parse lexemes = .ok statements) : Statement.areWritable statements = true := by
  obtain ⟨rest, hresult⟩ := exists_of_parse hparse
  exact yields_program lexemes statements rest hresult

theorem not_parses_of_unwritable {statements : List Statement}
    (hunwritable : Statement.areWritable statements = false) :
    ¬ ∃ lexemes parsed, parse lexemes = .ok parsed ∧
      parsed.map Statement.bare = statements.map Statement.bare := by
  rintro ⟨lexemes, parsed, hparsed, hbare⟩
  have hwritable := areWritable_of_parse hparsed
  rw [← Statement.areWritable_bare, Statement.bareAll_eq_map, hbare, ← Statement.bareAll_eq_map,
    Statement.areWritable_bare, hunwritable] at hwritable
  cases hwritable

/-- Reading what is written for a program gives the program back, up to the places of its parts,
with the libraries that it asks for. -/
theorem parse_printed_program (statements : List Statement)
    (hwritable : Statement.areWritable statements = true) (lexemes : List Lexeme)
    (hprinted : lexemes.map Lexeme.token = Printer.lines statements) :
    ∃ parsed, parse lexemes = .ok parsed ∧
      parsed.map Statement.bare = statements.map Statement.bare ∧
      requestedLibraries parsed = requestedLibraries statements := by
  have hspells : Spells (Printer.lines statements) lexemes [] :=
    ⟨lexemes, hprinted, (List.append_nil lexemes).symm⟩
  obtain ⟨parsed, hparsed, hbare⟩ := parse_of_reads (reads_program hwritable hspells)
  refine ⟨parsed, hparsed, ?_, ?_⟩
  · rw [← Statement.bareAll_eq_map, hbare, Statement.bareAll_eq_map]
  · rw [← requestedLibraries_bare, hbare, requestedLibraries_bare]

/-- A program with a statement of each kind, and with parts that need brackets. -/
def sampleProgram : List Statement :=
  [.library .none "v30/bslCore.brs",
    .component .none "Tile" (some "Node") [("title", .literal .none (.text ""))],
    .function .none "scale" ["value", "factor"]
      [.conditional .none
        [(.unary .none .not (.binary .none .less (.variable .none "value")
            (.literal .none (.integer 0))),
          [.return .none (some (.binary .none .multiply
            (.binary .none .add (.variable .none "value") (.literal .none (.integer 1)))
            (.unary .none .negate (.variable .none "factor"))))]),
          (.literal .none (.boolean true), [])]
        (some [.conditional .none [(.literal .none .invalid, [.return .none none])] none])]
      false,
    .assign .none "tiles" (.array .none [.table .none [("size", .literal .none (.integer 2))]]),
    .assignMember .none (.member .none (.variable .none "m") "top") "size"
      (.call .none (.variable .none "scale") [.literal .none (.integer 2),
        .binary .none .subtract (.variable .none "a")
          (.binary .none .subtract (.variable .none "b") (.variable .none "c"))]),
    .expression .none (.binary .none .equal (.variable .none "a") (.variable .none "b")),
    .print .none [.member .none (.binary .none .or (.variable .none "a") (.variable .none "b")) "x",
      .literal .none (.text "done")]]

theorem parse_printed_program_sample :
    Statement.areWritable sampleProgram = true ∧
      ∃ parsed, parse ((Printer.lines sampleProgram).map fun token => ⟨token, .none⟩) = .ok parsed ∧
        parsed.map Statement.bare = sampleProgram.map Statement.bare ∧
        requestedLibraries parsed = requestedLibraries sampleProgram := by
  have hwritable : Statement.areWritable sampleProgram = true := by decide +kernel
  refine ⟨hwritable, parse_printed_program sampleProgram hwritable _ ?_⟩
  rw [List.map_map]
  exact List.map_id _

/-- No token list is read as an assignment to a member of what a call gives, or as a conditional
statement without a branch, though neither names a library. -/
theorem unwritable_programs_unread :
    (¬ ∃ lexemes parsed, parse lexemes = .ok parsed ∧ parsed.map Statement.bare =
      [Statement.assignMember .none (.call .none (.variable .none "f") []) "x"
        (.literal .none (.integer 1))].map Statement.bare) ∧
    ¬ ∃ lexemes parsed, parse lexemes = .ok parsed ∧ parsed.map Statement.bare =
      [Statement.conditional .none [] none].map Statement.bare :=
  ⟨not_parses_of_unwritable rfl, not_parses_of_unwritable rfl⟩

end Grammar

end BrightScript
