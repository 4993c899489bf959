import BrightScript.Proofs.Syntax.Expressions

open BrightScript.Parser

namespace BrightScript.Grammar

/-- Whether a token ends a block of statements. -/
def closesBlock : Token → Bool
  | .keyword word => word ∈ [.end, .else, .elseIf]
  | _ => false

/-- Whether a statement can begin with a token. -/
def startsStatement : Token → Bool
  | .keyword word =>
    opens (.keyword word) || word ∈ [.library, .print, .if, .function, .sub, .return, .component]
  | token => opens token

theorem startsStatement_of_opens {token : Token} (htoken : opens token = true) :
    startsStatement token = true := by
  cases token with
  | keyword word => simp [startsStatement, htoken]
  | _ => exact htoken

theorem not_startsStatement_of_closesBlock {token : Token} (htoken : closesBlock token = true) :
    startsStatement token = false := by
  cases token with
  | keyword word => cases word <;> first | rfl | cases htoken
  | _ => cases htoken

/-- Whether a token is no separator. -/
def continues (token : Token) : Prop := token ≠ .newline ∧ token ≠ .symbol .colon

theorem continues_of_opens {token : Token} (htoken : opens token = true) : continues token := by
  constructor
  · rintro rfl
    cases htoken
  · rintro rfl
    cases htoken

theorem continues_of_closesBlock {token : Token} (htoken : closesBlock token = true) :
    continues token := by
  constructor
  · rintro rfl
    cases htoken
  · rintro rfl
    cases htoken

theorem continues_keyword (word : Keyword) : continues (.keyword word) := by
  constructor
  · rintro ⟨⟩
  · rintro ⟨⟩

theorem closes_of_newline {rest : List Lexeme} (hrest : Next (· = .newline) rest) :
    Next (closes · = true) rest := by
  refine hrest.imp ?_
  rintro _ rfl
  rfl

section Separators

variable {input rest : List Lexeme}

theorem next_operand {value : Expression} {least : Nat} {more : List Token}
    (hspells : Spells (Printer.operand least value ++ more) input rest) :
    Next (opens · = true) input := by
  obtain ⟨token, others, htokens, htoken⟩ : ∃ token others,
      Printer.operand least value ++ more = token :: others ∧ opens token = true :=
    opens_append (opens_grouped (opens_expression value))
  rw [htokens, Spells.cons_iff] at hspells
  obtain ⟨span, tail, rfl, -⟩ := hspells
  exact .cons htoken

theorem next_statement {written : Statement}
    (hspells : Spells (Printer.statement written) input rest) : Next continues input := by
  cases written with
  | assign span name value =>
      rw [Printer.statement, Spells.cons_iff] at hspells
      obtain ⟨span, tail, rfl, -⟩ := hspells
      exact .cons (continues_of_opens rfl)
  | assignMember span object name value =>
      rw [Printer.statement] at hspells
      exact (next_operand hspells).imp fun _ => continues_of_opens
  | expression span value =>
      rw [Printer.statement, Printer.bracketed, Spells.cons_iff] at hspells
      obtain ⟨span, tail, rfl, -⟩ := hspells
      exact .cons (continues_of_opens rfl)
  | «return» span value =>
      cases value <;>
      · rw [Printer.statement, Spells.cons_iff] at hspells
        obtain ⟨span, tail, rfl, -⟩ := hspells
        exact .cons (continues_keyword _)
  | _ =>
      rw [Printer.statement, Spells.cons_iff] at hspells
      obtain ⟨span, tail, rfl, -⟩ := hspells
      exact .cons (continues_keyword _)

theorem next_lines {body : List Statement} (hspells : Spells (Printer.lines body) input rest)
    (hrest : Next continues rest) : Next continues input := by
  cases body with
  | nil =>
      rw [Printer.lines, Spells.nil_iff] at hspells
      exact hspells ▸ hrest
  | cons first others =>
      rw [Printer.lines, Spells.append_iff] at hspells
      obtain ⟨middle, hfirst, -⟩ := hspells
      exact next_statement hfirst

theorem refuses_separator (hnext : Next continues input) : separator.Refuses input := by
  refine Refuses.bind (Refuses.orElseRefuses (refuses_expect ?_) (refuses_expect ?_)) _
  · exact hnext.imp fun _ htoken => htoken.1
  · exact hnext.imp fun _ htoken => htoken.2

theorem reads_separator {span : Span} (hnext : Next continues rest) :
    separator.Reads (⟨.newline, span⟩ :: rest) rest fun _ => True := by
  have hbreak : ((expect .newline).orElse (symbol .colon)).Reads (⟨.newline, span⟩ :: rest) rest
      fun _ => True :=
    Reads.orElse reads_expect _
  have hstop : ((expect .newline).orElse (symbol .colon)).Refuses rest := by
    refine Refuses.orElseRefuses (refuses_expect ?_) (refuses_expect ?_)
    · exact hnext.imp fun _ htoken => htoken.1
    · exact hnext.imp fun _ htoken => htoken.2
  exact hbreak.bind fun _ _ => hstop.many.bind fun _ _ => .pure trivial

end Separators

/-- A parser of statements reads back what is written, on inputs that are shorter than a bound. -/
structure ReadsStatements (inner : Parser Statement) (bound : Nat) : Prop where
  reads : ∀ {written : Statement} {input rest : List Lexeme}, input.length < bound →
    written.isWritable = true → Spells (Printer.statement written) input rest →
      Next (· = .newline) rest → inner.Reads input rest (·.bare = written.bare)
  refuses : ∀ {input : List Lexeme}, Next (closesBlock · = true) input → inner.Refuses input

section Blocks

variable {inner : Parser Statement} {bound : Nat} {input rest : List Lexeme}

theorem reads_lines (hinner : ReadsStatements inner bound) {ending : Parser (List Unit)}
    (hending : ∀ {span : Span} {tail : List Lexeme}, Next continues tail →
      ending.Reads (⟨.newline, span⟩ :: tail) tail fun _ => True)
    {body : List Statement} (hbody : Statement.areWritable body = true)
    (hlength : input.length < bound) (hspells : Spells (Printer.lines body) input rest)
    (hrest : Next (closesBlock · = true) rest) :
    Reads (many (do
      let read ← inner
      let _ ← ending
      return read)) input rest fun reads => Statement.bareAll reads = Statement.bareAll body := by
  induction body generalizing input with
  | nil =>
      rw [Printer.lines] at hspells
      obtain rfl := Spells.nil_iff.mp hspells
      refine Reads.imp (Refuses.many ((hinner.refuses hrest).bind _)) ?_
      rintro _ rfl
      rfl
  | cons first others ih =>
      rw [Printer.lines, Spells.append_iff] at hspells
      obtain ⟨middle, hfirst, hmiddle⟩ := hspells
      obtain ⟨span, tail, rfl, hothers⟩ := Spells.cons_iff.mp hmiddle
      rw [Statement.areWritable, Bool.and_eq_true] at hbody
      have hinput := hfirst.length_eq
      rw [List.length_cons] at hinput
      have hnext := next_lines hothers (hrest.imp fun _ => continues_of_closesBlock)
      have hstep : Reads (do
          let read ← inner
          let _ ← ending
          return read) input tail (·.bare = first.bare) := by
        refine (hinner.reads hlength hbody.1 hfirst (.cons rfl)).bind fun read hread => ?_
        exact (hending hnext).bind fun _ _ => .pure hread
      refine Reads.imp (hstep.many (by omega) (ih hbody.2 (by omega) hothers)) ?_
      rintro _ ⟨read, reads, rfl, hread, hreads⟩
      rw [Statement.bareAll, Statement.bareAll, hread, hreads]

theorem reads_block (hinner : ReadsStatements inner bound) {body : List Statement}
    (hbody : Statement.areWritable body = true) (hlength : input.length ≤ bound)
    (hspells : Spells (.newline :: Printer.lines body) input rest)
    (hrest : Next (closesBlock · = true) rest) :
    (block inner).Reads input rest fun reads =>
      Statement.bareAll reads = Statement.bareAll body := by
  obtain ⟨span, tail, rfl, hlines⟩ := Spells.cons_iff.mp hspells
  rw [List.length_cons] at hlength
  have hnext := next_lines hlines (hrest.imp fun _ => continues_of_closesBlock)
  exact (reads_separator hnext).bind fun _ _ =>
    reads_lines hinner reads_separator hbody hlength hlines hrest

theorem reads_branch (hinner : ReadsStatements inner bound) {condition : Expression}
    {body : List Statement} (hbody : Statement.areWritable body = true)
    (hlength : input.length ≤ bound)
    (hspells : Spells (Printer.branch condition body) input rest)
    (hrest : Next (closesBlock · = true) rest) :
    (branch inner).Reads input rest fun read =>
      read.1.bare = condition.bare ∧ Statement.bareAll read.2 = Statement.bareAll body := by
  obtain ⟨middle, hcondition, hmiddle⟩ := Spells.append_iff.mp hspells
  obtain ⟨span, tail, rfl, hblock⟩ := Spells.cons_iff.mp hmiddle
  have hinput := hcondition.length_eq
  rw [List.length_cons] at hinput
  refine (reads_expression hcondition (ends_of_closes (.cons rfl) 0)).bind fun value hvalue => ?_
  refine reads_expect.optional.bind fun _ _ => ?_
  refine (reads_block hinner hbody (by omega) hblock hrest).bind fun reads hreads => ?_
  exact .pure ⟨hvalue, hreads⟩

theorem next_furtherChoices {others : List (Expression × List Statement)}
    (hspells : Spells (Printer.furtherChoices others) input rest)
    (hrest : Next (closesBlock · = true) rest) : Next (closesBlock · = true) input := by
  cases others with
  | nil =>
      rw [Printer.furtherChoices, Spells.nil_iff] at hspells
      exact hspells ▸ hrest
  | cons other others =>
      rw [Printer.furtherChoices_cons, Spells.cons_iff] at hspells
      obtain ⟨span, tail, rfl, -⟩ := hspells
      exact .cons rfl

theorem reads_furtherChoices (hinner : ReadsStatements inner bound)
    {others : List (Expression × List Statement)}
    (hothers : Statement.areBranchesWritable others = true) (hlength : input.length ≤ bound)
    (hspells : Spells (Printer.furtherChoices others) input rest)
    (hrest : Next (closesBlock · = true) rest)
    (hnone : ((keyword .elseIf).orElse (do keyword .else; keyword .if)).Refuses rest) :
    Reads (many (do
      (keyword .elseIf).orElse (do keyword .else; keyword .if)
      branch inner)) input rest fun reads =>
        Statement.bareBranches reads = Statement.bareBranches others := by
  induction others generalizing input with
  | nil =>
      rw [Printer.furtherChoices] at hspells
      obtain rfl := Spells.nil_iff.mp hspells
      refine Reads.imp (Refuses.many (hnone.bind _)) ?_
      rintro _ rfl
      rfl
  | cons other others ih =>
      obtain ⟨condition, body⟩ := other
      rw [Printer.furtherChoices_cons] at hspells
      obtain ⟨span, tail, rfl, htail⟩ := Spells.cons_iff.mp hspells
      obtain ⟨after, hbranch, hafter⟩ := Spells.append_iff.mp htail
      rw [Statement.areBranchesWritable, Bool.and_eq_true] at hothers
      have htail := hbranch.length_eq
      rw [List.length_cons] at hlength
      have hstep : Reads (do
          (keyword .elseIf).orElse (do keyword .else; keyword .if)
          branch inner) (⟨.keyword .elseIf, span⟩ :: tail) after fun read =>
            read.1.bare = condition.bare ∧ Statement.bareAll read.2 = Statement.bareAll body := by
        refine Reads.bind (Reads.orElse reads_expect _) fun _ _ => ?_
        exact reads_branch hinner hothers.1 (by omega) hbranch (next_furtherChoices hafter hrest)
      refine Reads.imp (hstep.many ?_ (ih hothers.2 (by omega) hafter)) ?_
      · rw [List.length_cons]
        omega
      · rintro _ ⟨⟨value, read⟩, reads, rfl, ⟨hvalue, hread⟩, hreads⟩
        dsimp only at hvalue hread
        rw [Statement.bareBranches, Statement.bareBranches, hvalue, hread, hreads]

theorem reads_otherwise (hinner : ReadsStatements inner bound) {otherwise : Option (List Statement)}
    (hotherwise : Statement.isOtherwiseWritable otherwise = true) (hlength : input.length ≤ bound)
    (hspells : Spells (Printer.otherwise otherwise) input rest)
    (hrest : Next (· = .keyword .end) rest) :
    Reads (optional (do keyword .else; block inner)) input rest fun read =>
      Statement.bareOtherwise read = Statement.bareOtherwise otherwise := by
  cases otherwise with
  | none =>
      rw [Printer.otherwise] at hspells
      obtain rfl := Spells.nil_iff.mp hspells
      have hrefuses : (keyword .else).Refuses input :=
        refuses_expect (hrest.imp fun token htoken => by simp [htoken])
      refine Reads.imp (hrefuses.bind _).optional ?_
      rintro _ rfl
      rfl
  | some body =>
      rw [Printer.otherwise] at hspells
      obtain ⟨span, tail, rfl, hblock⟩ := Spells.cons_iff.mp hspells
      rw [List.length_cons] at hlength
      have hread : Reads (do keyword .else; block inner) (⟨.keyword .else, span⟩ :: tail) rest
          fun reads => Statement.bareAll reads = Statement.bareAll body := by
        refine reads_expect.bind fun _ _ => ?_
        refine reads_block hinner hotherwise (by omega) hblock (hrest.imp ?_)
        rintro _ rfl
        rfl
      refine Reads.imp hread.optional ?_
      rintro _ ⟨reads, rfl, hreads⟩
      rw [Statement.bareOtherwise, Statement.bareOtherwise, hreads]

end Blocks

section Single

variable {inner : Parser Statement} {bound : Nat} {input rest : List Lexeme}

theorem result_library (input : List Lexeme) :
    (library input).result =
      (spanned (do keyword .library; text) input).result.bind fun taken =>
        if (Library.ofPath? taken.1.2).isSome then some (.library taken.1.1 taken.1.2, taken.2)
        else none := by
  unfold library
  dsimp only
  cases spanned (do keyword .library; text) input with
  | mk result failure =>
      cases result with
      | none => rfl
      | some taken =>
          obtain ⟨⟨span, path⟩, rest⟩ := taken
          dsimp only [Option.bind_some]
          split <;> rfl

theorem reads_library {path : String} (hpath : (Library.ofPath? path).isSome = true)
    (hspells : Spells [.keyword .library, .text path] input rest) :
    library.Reads input rest (·.bare = (Statement.library .none path).bare) := by
  obtain ⟨span, tail, rfl, htext⟩ := Spells.cons_iff.mp hspells
  obtain ⟨span', tail, rfl, hrest⟩ := Spells.cons_iff.mp htext
  obtain rfl := Spells.nil_iff.mp hrest
  have hnamed : Reads (do keyword .library; text)
      (⟨.keyword .library, span⟩ :: ⟨.text path, span'⟩ :: tail) tail (· = path) :=
    reads_expect.bind fun _ _ => reads_satisfy rfl
  obtain ⟨⟨place, named⟩, hresult, hnamed⟩ := hnamed.spanned
  obtain rfl : named = path := hnamed
  refine ⟨.library place named, ?_, rfl⟩
  rw [result_library, hresult, Option.bind_some, if_pos hpath]

theorem refuses_library (hnext : Next (· ≠ .keyword .library) input) : library.Refuses input := by
  have hnamed : (do keyword .library; text : Parser String).Refuses input :=
    (refuses_expect hnext).bind _
  rw [Refuses, result_library, hnamed.spanned, Option.bind_none]

theorem reads_print {values : List Expression}
    (hspells : Spells (.keyword .print :: Printer.listed values) input rest)
    (hrest : Next (· = .newline) rest) :
    print.Reads input rest (·.bare = (Statement.print .none values).bare) := by
  obtain ⟨span, inside, rfl, hvalues⟩ := Spells.cons_iff.mp hspells
  rw [Printer.listed_eq_separated] at hvalues
  have hrules : CommaRules expression ((symbol .comma).orElse (symbol .semicolon))
      Printer.expression (fun value read => read.bare = value.bare) inside.length rest := by
    refine (readsBelow_expression _).commaRules (Nat.lt_succ_self _) (closes_of_newline hrest)
      (fun span hnext => Reads.orElse reads_expect _)
      (Refuses.orElseRefuses (refuses_expect (hrest.imp ?_)) (refuses_expect (hrest.imp ?_)))
    · rintro _ rfl ⟨⟩
    · rintro _ rfl ⟨⟩
  have hprint : Reads (do
      keyword .print
      separatedByTrailing expression ((symbol .comma).orElse (symbol .semicolon)))
        (⟨.keyword .print, span⟩ :: inside) rest
        (List.Forall₂ (fun value read => Expression.bare read = value.bare) values) :=
    reads_expect.bind fun _ _ => hrules.trailing le_rfl hvalues
  refine hprint.spanned.bind ?_
  rintro ⟨place, reads⟩ hreads
  refine .pure ?_
  rw [Statement.bare, Statement.bare, ← Expression.bareAll_eq_map, ← Expression.bareAll_eq_map,
    map_bare_eq hreads]

theorem reads_returning {place : Span} {value : Option Expression}
    (hspells : Spells (Printer.statement (.return place value)) input rest)
    (hrest : Next (· = .newline) rest) :
    returning.Reads input rest (·.bare = (Statement.return place value).bare) := by
  have hclose := closes_of_newline hrest
  have hreturn : Reads (do keyword .return; expression.optional) input rest fun read =>
      read.map Expression.bare = value.map Expression.bare := by
    cases value with
    | none =>
        rw [Printer.statement, Spells.cons_iff] at hspells
        obtain ⟨span, tail, rfl, htail⟩ := hspells
        obtain rfl := Spells.nil_iff.mp htail
        have hnone : expression.Refuses tail :=
          refuses_expression (hclose.imp fun _ => not_opens_of_closes) 0
        refine reads_expect.bind fun _ _ => Reads.imp hnone.optional ?_
        rintro _ rfl
        rfl
    | some value =>
        rw [Printer.statement, Spells.cons_iff] at hspells
        obtain ⟨span, tail, rfl, htail⟩ := hspells
        have hvalue := reads_expression htail (ends_of_closes hclose 0)
        refine reads_expect.bind fun _ _ => Reads.imp hvalue.optional ?_
        rintro _ ⟨read, rfl, hread⟩
        rw [Option.map_some, Option.map_some, hread]
  refine hreturn.spanned.bind ?_
  rintro ⟨place, read⟩ hread
  refine .pure ?_
  dsimp only at hread
  rw [Statement.bare, Statement.bare, hread]

theorem reads_expressionStatement {value : Expression}
    (hspells : Spells (Printer.bracketed (Printer.expression value)) input rest)
    (hrest : Next (· = .newline) rest) :
    Reads (do let (span, value) ← spanned expression; return Statement.expression span value)
      input rest (·.bare = (Statement.expression .none value).bare) := by
  have hends : Ends 0 rest := ends_of_closes (closes_of_newline hrest) 0
  have hread : expression.Reads input rest (·.bare = value.bare) := by
    rw [← operand_of_lt (Nat.lt_succ_self _)] at hspells
    exact reads_expression_operand (Nat.zero_le _) hspells hends
  refine hread.spanned.bind ?_
  rintro ⟨place, read⟩ hread
  refine .pure ?_
  dsimp only at hread
  rw [Statement.bare, Statement.bare, hread]

theorem reads_parameters {names : List String}
    (hspells : Spells (Printer.bracketed (Printer.separated (fun name => [.identifier name]) names))
      input rest) : parameters.Reads input rest (· = names) := by
  obtain ⟨span, inside, span', rfl, hnames⟩ := hspells.enclosed
  have hrules : CommaRules (do
      let name ← identifier
      let _ ← typeAnnotation.optional
      return name) (symbol .comma) (fun name => [.identifier name]) (fun name read => name = read)
      inside.length (⟨.symbol .roundClose, span'⟩ :: rest) := by
    constructor
    · intro name first after _ hname hafter
      obtain ⟨span, tail, rfl, htail⟩ := Spells.cons_iff.mp hname
      obtain rfl := Spells.nil_iff.mp htail
      have hidentifier : identifier.Reads (⟨.identifier name, span⟩ :: tail) tail (· = name) :=
        reads_satisfy rfl
      have hplain : typeAnnotation.Refuses tail := by
        rcases hafter with rfl | ⟨_, _, rfl⟩
        · exact (refuses_satisfy (.cons rfl)).bind _
        · exact (refuses_satisfy (.cons rfl)).bind _
      refine hidentifier.bind ?_
      rintro _ rfl
      exact hplain.optional.bind fun _ _ => .pure rfl
    · intro name first after span _
      exact reads_expect
    · exact (refuses_satisfy (.cons rfl)).bind _
    · exact refuses_expect (.cons (by simp))
  refine Reads.imp (.between reads_expect (hrules.separated le_rfl hnames) reads_expect) ?_
  intro reads hreads
  rw [List.forall₂_eq_eq_eq] at hreads
  exact hreads.symm

theorem reads_function (hinner : ReadsStatements inner bound) {name : String} {names : List String}
    {body : List Statement} {isSub : Bool} (hbody : Statement.areWritable body = true)
    (hlength : input.length ≤ bound)
    (hspells : Spells (Printer.statement (.function .none name names body isSub)) input rest) :
    (function inner).Reads input rest
      (·.bare = (Statement.function .none name names body isSub).bare) := by
  rw [Printer.statement, Spells.cons_iff] at hspells
  obtain ⟨opening, tail, rfl, hname⟩ := hspells
  obtain ⟨place, tail, rfl, htail⟩ := Spells.cons_iff.mp hname
  obtain ⟨middle, hnames, hmiddle⟩ := Spells.append_iff.mp htail
  rw [← List.cons_append, Spells.append_iff] at hmiddle
  obtain ⟨after, hblock, hafter⟩ := hmiddle
  obtain ⟨ending, closing, rfl, hend⟩ := Spells.cons_iff.mp hafter
  obtain ⟨last, closing, rfl, hrest⟩ := Spells.cons_iff.mp hend
  obtain rfl := Spells.nil_iff.mp hrest
  have hshorter := hnames.length_eq
  simp only [List.length_cons] at hlength
  have hword : Reads (orElse (do keyword .function; return false) (do keyword .sub; return true))
      (⟨.keyword (Printer.functionWord isSub), opening⟩ :: ⟨.identifier name, place⟩ :: tail)
      (⟨.identifier name, place⟩ :: tail) (· = isSub) := by
    cases isSub with
    | false =>
        refine Reads.orElse (reads_expect.bind fun _ _ => ?_) _
        exact .pure rfl
    | true =>
        have hrefuses : (keyword .function).Refuses
            (⟨.keyword .sub, opening⟩ :: ⟨.identifier name, place⟩ :: tail) :=
          refuses_expect (.cons (by simp))
        refine Refuses.orElse (hrefuses.bind _) (reads_expect.bind fun _ _ => ?_)
        exact .pure rfl
  have hclosing : ((keyword .function).orElse (keyword .sub)).Reads
      (⟨.keyword (Printer.functionWord isSub), last⟩ :: closing) closing fun _ => True := by
    cases isSub with
    | false => exact Reads.orElse reads_expect _
    | true =>
        exact Refuses.orElse (refuses_expect (.cons (by simp [Printer.functionWord]))) reads_expect
  have hidentifier : identifier.Reads (⟨.identifier name, place⟩ :: tail) tail (· = name) :=
    reads_satisfy rfl
  have hplain : typeAnnotation.Refuses middle := by
    obtain ⟨_, _, rfl, -⟩ := Spells.cons_iff.mp hblock
    exact (refuses_satisfy (.cons rfl)).bind _
  have hparts : Reads (do
      let isSub ← orElse (do keyword .function; return false) (do keyword .sub; return true)
      let name ← identifier
      let names ← parameters
      let _ ← typeAnnotation.optional
      let body ← block inner
      keyword .end
      (keyword .function).orElse (keyword .sub)
      return (isSub, name, names, body))
      (⟨.keyword (Printer.functionWord isSub), opening⟩ :: ⟨.identifier name, place⟩ :: tail)
      closing fun read => read.1 = isSub ∧ read.2.1 = name ∧ read.2.2.1 = names ∧
        Statement.bareAll read.2.2.2 = Statement.bareAll body := by
    refine hword.bind fun _ hsub => hidentifier.bind fun _ hname => ?_
    refine (reads_parameters hnames).bind fun _ hnames => hplain.optional.bind fun _ _ => ?_
    refine (reads_block hinner hbody (by omega) hblock (.cons rfl)).bind fun reads hreads => ?_
    refine reads_expect.bind fun _ _ => hclosing.bind fun _ _ => ?_
    exact .pure ⟨hsub, hname, hnames, hreads⟩
  refine hparts.spanned.bind ?_
  rintro ⟨place, _, _, _, reads⟩ ⟨rfl, rfl, rfl, hreads⟩
  refine .pure ?_
  rw [Statement.bare, Statement.bare, hreads]

theorem reads_base {base : Option String} (hspells : Spells (Printer.base base) input rest)
    (hrest : Next (· = .newline) rest) :
    Reads (optional (do keyword .extends; text)) input rest (· = base) := by
  cases base with
  | none =>
      obtain rfl := Spells.nil_iff.mp hspells
      refine (Refuses.bind (refuses_expect (hrest.imp ?_)) _).optional
      rintro _ rfl ⟨⟩
  | some name =>
      obtain ⟨span, tail, rfl, htext⟩ := Spells.cons_iff.mp hspells
      obtain ⟨span', tail, rfl, htail⟩ := Spells.cons_iff.mp htext
      obtain rfl := Spells.nil_iff.mp htail
      have hnamed : Reads (do keyword .extends; text)
          (⟨.keyword .extends, span⟩ :: ⟨.text name, span'⟩ :: tail) tail (· = name) :=
        reads_expect.bind fun _ _ => reads_satisfy rfl
      refine Reads.imp hnamed.optional ?_
      rintro _ ⟨_, rfl, rfl⟩
      rfl

theorem next_fields {members : List (String × Expression)}
    (hspells : Spells (Printer.fields members) input rest) (hrest : Next continues rest) :
    Next continues input := by
  cases members with
  | nil => exact Spells.nil_iff.mp hspells ▸ hrest
  | cons member members =>
      obtain ⟨span, tail, rfl, -⟩ := Spells.cons_iff.mp hspells
      exact .cons (continues_keyword _)

theorem reads_fields {members : List (String × Expression)}
    (hspells : Spells (Printer.fields members) input rest)
    (hrest : Next (· = .keyword .end) rest) :
    Reads (many (do
      let declared ← field
      let _ ← separator
      return declared)) input rest fun reads =>
        Expression.bareEntries reads = Expression.bareEntries members := by
  induction members generalizing input with
  | nil =>
      obtain rfl := Spells.nil_iff.mp hspells
      have hnone : field.Refuses input := by
        refine Refuses.bind (refuses_expect (hrest.imp ?_)) _
        rintro _ rfl ⟨⟩
      refine Reads.imp (Refuses.many (hnone.bind _)) ?_
      rintro _ rfl
      rfl
  | cons member members ih =>
      obtain ⟨name, value⟩ := member
      rw [Printer.fields, List.flatMap_cons, Spells.append_iff] at hspells
      obtain ⟨after, hmember, hmembers⟩ := hspells
      obtain ⟨first, tail, rfl, hname⟩ := Spells.cons_iff.mp hmember
      obtain ⟨second, tail, rfl, hequal⟩ := Spells.cons_iff.mp hname
      obtain ⟨third, tail, rfl, htail⟩ := Spells.cons_iff.mp hequal
      obtain ⟨middle, hvalue, hbreak⟩ := Spells.append_iff.mp htail
      obtain ⟨place, breaks, rfl, hafter⟩ := Spells.cons_iff.mp hbreak
      obtain rfl := Spells.nil_iff.mp hafter
      have hshorter := hvalue.length_eq
      have hnext : Next continues breaks := by
        refine next_fields hmembers (hrest.imp ?_)
        rintro _ rfl
        exact continues_keyword _
      have hidentifier : identifier.Reads (⟨.identifier name, second⟩ :: ⟨.symbol .equal, third⟩ ::
          tail) (⟨.symbol .equal, third⟩ :: tail) (· = name) :=
        reads_satisfy rfl
      have hfield : field.Reads (⟨.keyword .field, first⟩ :: ⟨.identifier name, second⟩ ::
          ⟨.symbol .equal, third⟩ :: tail) (⟨.newline, place⟩ :: breaks) fun read =>
            read.1 = name ∧ read.2.bare = value.bare := by
        refine reads_expect.bind fun _ _ => hidentifier.bind fun _ hname => ?_
        refine reads_expect.bind fun _ _ => ?_
        refine (reads_expression hvalue (ends_of_closes (.cons rfl) 0)).bind fun _ hvalue => ?_
        exact .pure ⟨hname, hvalue⟩
      have hstep : Reads (do
          let declared ← field
          let _ ← separator
          return declared) (⟨.keyword .field, first⟩ :: ⟨.identifier name, second⟩ ::
          ⟨.symbol .equal, third⟩ :: tail) breaks fun read =>
            read.1 = name ∧ read.2.bare = value.bare :=
        hfield.bind fun read hread => (reads_separator hnext).bind fun _ _ => .pure hread
      refine Reads.imp (hstep.many ?_ (ih hmembers)) ?_
      · simp only [List.length_cons] at hshorter ⊢
        omega
      · rintro _ ⟨⟨_, read⟩, reads, rfl, ⟨rfl, hread⟩, hreads⟩
        dsimp only at hread
        rw [Expression.bareEntries, Expression.bareEntries, hread, hreads]

theorem reads_component {name : String} {base : Option String}
    {members : List (String × Expression)}
    (hspells : Spells (Printer.statement (.component .none name base members)) input rest) :
    component.Reads input rest (·.bare = (Statement.component .none name base members).bare) := by
  rw [Printer.statement, Spells.cons_iff] at hspells
  obtain ⟨opening, tail, rfl, hname⟩ := hspells
  obtain ⟨place, tail, rfl, htail⟩ := Spells.cons_iff.mp hname
  obtain ⟨middle, hbase, hmiddle⟩ := Spells.append_iff.mp htail
  obtain ⟨breaking, inside, rfl, hinside⟩ := Spells.cons_iff.mp hmiddle
  obtain ⟨after, hmembers, hafter⟩ := Spells.append_iff.mp hinside
  obtain ⟨ending, closing, rfl, hend⟩ := Spells.cons_iff.mp hafter
  obtain ⟨last, closing, rfl, hrest⟩ := Spells.cons_iff.mp hend
  obtain rfl := Spells.nil_iff.mp hrest
  have htext : text.Reads (⟨.text name, place⟩ :: tail) tail (· = name) := reads_satisfy rfl
  have hnext : Next continues inside := next_fields hmembers (.cons (continues_keyword _))
  have hparts : Reads (do
      keyword .component
      let name ← text
      let base ← optional (do keyword .extends; text)
      let _ ← separator
      let fields ← many (do
        let declared ← field
        let _ ← separator
        return declared)
      keyword .end
      keyword .component
      return (name, base, fields)) (⟨.keyword .component, opening⟩ :: ⟨.text name, place⟩ :: tail)
      closing fun read => read.1 = name ∧ read.2.1 = base ∧
        Expression.bareEntries read.2.2 = Expression.bareEntries members := by
    refine reads_expect.bind fun _ _ => htext.bind fun _ hname => ?_
    refine (reads_base hbase (.cons rfl)).bind fun _ hbase => ?_
    refine (reads_separator hnext).bind fun _ _ => ?_
    refine Reads.bind (reads_fields hmembers (.cons rfl)) fun _ hmembers => ?_
    refine reads_expect.bind fun _ _ => reads_expect.bind fun _ _ => ?_
    exact .pure ⟨hname, hbase, hmembers⟩
  refine hparts.spanned.bind ?_
  rintro ⟨place, _, _, reads⟩ ⟨rfl, rfl, hreads⟩
  refine .pure ?_
  rw [Expression.bareEntries_eq_map, Expression.bareEntries_eq_map] at hreads
  rw [Statement.bare, Statement.bare, hreads]

theorem reads_conditional (hinner : ReadsStatements inner bound)
    {branches : List (Expression × List Statement)} {otherwise : Option (List Statement)}
    (hwritable : (Statement.conditional .none branches otherwise).isWritable = true)
    (hlength : input.length ≤ bound)
    (hspells : Spells (Printer.statement (.conditional .none branches otherwise)) input rest) :
    (conditional inner).Reads input rest
      (·.bare = (Statement.conditional .none branches otherwise).bare) := by
  obtain _ | ⟨⟨condition, body⟩, others⟩ := branches
  · cases hwritable
  rw [Statement.isWritable, Bool.and_eq_true, Bool.and_eq_true, Statement.areBranchesWritable,
    Bool.and_eq_true] at hwritable
  obtain ⟨-, ⟨hbody, hothers⟩, hotherwise⟩ := hwritable
  rw [Printer.statement, Printer.choices_cons, Spells.cons_iff] at hspells
  obtain ⟨opening, inside, rfl, hinside⟩ := hspells
  rw [List.append_assoc, Spells.append_iff] at hinside
  obtain ⟨second, hbranch, hsecond⟩ := hinside
  obtain ⟨third, hchoices, hthird⟩ := Spells.append_iff.mp hsecond
  obtain ⟨fourth, helse, hfourth⟩ := Spells.append_iff.mp hthird
  obtain ⟨ending, closing, rfl, hend⟩ := Spells.cons_iff.mp hfourth
  obtain ⟨last, closing, rfl, hrest⟩ := Spells.cons_iff.mp hend
  obtain rfl := Spells.nil_iff.mp hrest
  have hlengths := hbranch.length_eq
  have hlengths' := hchoices.length_eq
  rw [List.length_cons] at hlength
  have hthird : Next (closesBlock · = true) third ∧
      ((keyword .elseIf).orElse (do keyword .else; keyword .if)).Refuses third := by
    cases otherwise with
    | none =>
        rw [Printer.otherwise] at helse
        obtain rfl := Spells.nil_iff.mp helse
        exact ⟨.cons rfl, Refuses.orElseRefuses (refuses_expect (.cons (by simp)))
          ((refuses_expect (.cons (by simp))).bind _)⟩
    | some body =>
        rw [Printer.otherwise] at helse
        obtain ⟨place, tail, rfl, htail⟩ := Spells.cons_iff.mp helse
        obtain ⟨place', tail, rfl, -⟩ := Spells.cons_iff.mp htail
        exact ⟨.cons rfl, Refuses.orElseRefuses (refuses_expect (.cons (by simp)))
          (reads_expect.bindRefuses fun _ _ => refuses_expect (.cons (by simp)))⟩
  have hclosing : Reads (orElse (do keyword .end; keyword .if) (keyword .endIf))
      (⟨.keyword .end, ending⟩ :: ⟨.keyword .if, last⟩ :: closing) closing fun _ => True :=
    Reads.orElse (reads_expect.bind fun _ _ => reads_expect) _
  have hparts : Reads (do
      keyword .if
      let first ← branch inner
      let others ← many (do
        (keyword .elseIf).orElse (do keyword .else; keyword .if)
        branch inner)
      let otherwise ← optional (do keyword .else; block inner)
      orElse (do keyword .end; keyword .if) (keyword .endIf)
      return (first :: others, otherwise)) (⟨.keyword .if, opening⟩ :: inside) closing fun read =>
        Statement.bareBranches read.1 = Statement.bareBranches ((condition, body) :: others) ∧
          Statement.bareOtherwise read.2 = Statement.bareOtherwise otherwise := by
    refine reads_expect.bind fun _ _ => ?_
    refine (reads_branch hinner hbody (by omega) hbranch
      (next_furtherChoices hchoices hthird.1)).bind ?_
    rintro ⟨value, read⟩ ⟨hvalue, hread⟩
    refine Reads.bind (reads_furtherChoices hinner hothers (by omega) hchoices hthird.1 hthird.2)
      fun reads hreads => ?_
    refine (reads_otherwise hinner hotherwise (by omega) helse (.cons rfl)).bind
      fun final hfinal => ?_
    refine hclosing.bind fun _ _ => .pure ⟨?_, hfinal⟩
    dsimp only at hvalue hread
    rw [Statement.bareBranches, Statement.bareBranches, hvalue, hread, hreads]
  refine hparts.spanned.bind ?_
  rintro ⟨place, reads, final⟩ ⟨hreads, hfinal⟩
  refine .pure ?_
  dsimp only at hreads hfinal
  rw [Statement.bare, Statement.bare, hreads, hfinal]

/-- A path is read as its variable with members behind it. -/
def ReadsPath (object : Expression) (input rest : List Lexeme) : Prop :=
  ∃ root middle path, (spanned identifier input).result = some (root, middle) ∧
    Steps (do symbol .dot; spanned identifier) middle path rest ∧
    (memberPath root path).bare = object.bare

theorem ReadsPath.member {object : Expression} {middle : List Lexeme}
    (hpath : ReadsPath object input middle) {name : String}
    (hspells : Spells [.symbol .dot, .identifier name] middle rest) :
    ∃ root start path last, (spanned identifier input).result = some (root, start) ∧
      Steps (do symbol .dot; spanned identifier) start (path ++ [last]) rest ∧
      (memberPath root path).bare = object.bare ∧ last.2 = name := by
  obtain ⟨root, start, path, hroot, hsteps, hbare⟩ := hpath
  obtain ⟨dot, tail, rfl, htail⟩ := Spells.cons_iff.mp hspells
  obtain ⟨place, tail, rfl, hrest⟩ := Spells.cons_iff.mp htail
  obtain rfl := Spells.nil_iff.mp hrest
  have hidentifier : identifier.Reads (⟨.identifier name, place⟩ :: tail) tail (· = name) :=
    reads_satisfy rfl
  have hstep : Reads (do symbol .dot; spanned identifier)
      (⟨.symbol .dot, dot⟩ :: ⟨.identifier name, place⟩ :: tail) tail (·.2 = name) :=
    reads_expect.bind fun _ _ => hidentifier.spanned
  obtain ⟨last, hlast, hall⟩ := hsteps.concat hstep (by simp)
  exact ⟨root, start, path, last, hroot, hall, hbare, hlast⟩

theorem readsPath : ∀ {object : Expression} {input rest : List Lexeme}, object.isPath = true →
    Spells (Printer.expression object) input rest → ReadsPath object input rest
  | .variable _ name, input, rest, _, hspells => by
      rw [Printer.expression] at hspells
      obtain ⟨place, tail, rfl, htail⟩ := Spells.cons_iff.mp hspells
      obtain rfl := Spells.nil_iff.mp htail
      have hidentifier : identifier.Reads (⟨.identifier name, place⟩ :: tail) tail (· = name) :=
        reads_satisfy rfl
      obtain ⟨root, hroot, hname⟩ := hidentifier.spanned
      refine ⟨root, tail, [], hroot, .nil, ?_⟩
      rw [memberPath, List.foldl_nil, Expression.bare, Expression.bare, hname]
  | .member _ object name, input, rest, hpath, hspells => by
      rw [Expression.isPath] at hpath
      have hpower := Expression.operandPower_le_of_isPath hpath
      rw [Printer.expression, Printer.grouped, if_neg (Nat.not_lt.mpr hpower),
        Spells.append_iff] at hspells
      obtain ⟨middle, hobject, hname⟩ := hspells
      obtain ⟨root, start, path, last, hroot, hsteps, hbare, hlast⟩ :=
        (readsPath hpath hobject).member hname
      refine ⟨root, start, path ++ [last], hroot, hsteps, ?_⟩
      rw [memberPath, List.foldl_append, List.foldl_cons, List.foldl_nil, Expression.bare,
        Expression.bare, ← hbare, hlast, memberPath]

theorem reads_assign {name : String} {value : Expression}
    (hspells : Spells (.identifier name :: .symbol .equal :: Printer.expression value) input rest)
    (hrest : Next (· = .newline) rest) :
    assignment.Reads input rest (·.bare = (Statement.assign .none name value).bare) := by
  obtain ⟨place, tail, rfl, hequal⟩ := Spells.cons_iff.mp hspells
  obtain ⟨equal, tail, rfl, hvalue⟩ := Spells.cons_iff.mp hequal
  have hidentifier : identifier.Reads (⟨.identifier name, place⟩ :: ⟨.symbol .equal, equal⟩ :: tail)
      (⟨.symbol .equal, equal⟩ :: tail) (· = name) :=
    reads_satisfy rfl
  have hnone : (do symbol .dot; spanned identifier : Parser (Span × String)).Refuses
      (⟨.symbol .equal, equal⟩ :: tail) :=
    (refuses_expect (.cons (by simp))).bind _
  have hends : Ends 0 rest := ends_of_closes (closes_of_newline hrest) 0
  have hparts : Reads (do
      let root ← spanned identifier
      let path ← many (do symbol .dot; spanned identifier)
      symbol .equal
      let value ← expression
      return (root, path, value))
      (⟨.identifier name, place⟩ :: ⟨.symbol .equal, equal⟩ :: tail) rest
      fun read => read.1.2 = name ∧ read.2.1 = [] ∧ read.2.2.bare = value.bare := by
    refine hidentifier.spanned.bind fun root hroot => Reads.bind hnone.many fun path hpath => ?_
    refine reads_expect.bind fun _ _ => (reads_expression hvalue hends).bind fun read hread => ?_
    exact .pure ⟨hroot, hpath, hread⟩
  refine hparts.spanned.bind ?_
  rintro ⟨place, ⟨_, _⟩, _, read⟩ ⟨rfl, rfl, hread⟩
  refine .pure ?_
  rw [Statement.bare, Statement.bare, hread]

theorem reads_assignMember {object value : Expression} {name : String}
    (hobject : object.isPath = true)
    (hspells : Spells (Printer.statement (.assignMember .none object name value)) input rest)
    (hrest : Next (· = .newline) rest) :
    assignment.Reads input rest
      (·.bare = (Statement.assignMember .none object name value).bare) := by
  rw [Printer.statement, operand_of_le (Expression.operandPower_le_of_isPath hobject),
    Spells.append_iff] at hspells
  obtain ⟨middle, hpath, hmiddle⟩ := hspells
  have hsplit : Spells
      ([.symbol .dot, .identifier name] ++ .symbol .equal :: Printer.expression value)
      middle rest := hmiddle
  obtain ⟨after, hname, hafter⟩ := Spells.append_iff.mp hsplit
  obtain ⟨equal, tail, rfl, hvalue⟩ := Spells.cons_iff.mp hafter
  obtain ⟨root, start, path, last, hroot, hsteps, hbare, hlast⟩ :=
    (readsPath hobject hpath).member hname
  have hidentifier : (spanned identifier).Reads input start (· = root) := ⟨root, hroot, rfl⟩
  have hnone : (do symbol .dot; spanned identifier : Parser (Span × String)).Refuses
      (⟨.symbol .equal, equal⟩ :: tail) :=
    (refuses_expect (.cons (by simp))).bind _
  have hends : Ends 0 rest := ends_of_closes (closes_of_newline hrest) 0
  have hparts : Reads (do
      let root ← spanned identifier
      let path ← many (do symbol .dot; spanned identifier)
      symbol .equal
      let value ← expression
      return (root, path, value)) input rest
      fun read => read.1 = root ∧ read.2.1 = path ++ [last] ∧ read.2.2.bare = value.bare := by
    refine hidentifier.bind fun _ hroot => Reads.bind (hsteps.many hnone) fun _ hpath => ?_
    refine reads_expect.bind fun _ _ => (reads_expression hvalue hends).bind fun read hread => ?_
    exact .pure ⟨hroot, hpath, hread⟩
  refine hparts.spanned.bind ?_
  rintro ⟨place, _, _, read⟩ ⟨rfl, rfl, hread⟩
  dsimp only at hread ⊢
  rw [List.getLast?_append_of_ne_nil _ (List.cons_ne_nil _ _), List.getLast?_singleton,
    List.dropLast_concat]
  refine .pure ?_
  rw [Statement.bare, Statement.bare, hbare, hlast, hread]

end Single

section Programs

variable {inner : Parser Statement} {bound : Nat} {input rest : List Lexeme}

theorem refuses_print (hnext : Next (· ≠ .keyword .print) input) : print.Refuses input :=
  ((refuses_expect hnext).bind _).spanned.bind _

theorem refuses_conditional (hnext : Next (· ≠ .keyword .if) input) :
    (conditional inner).Refuses input :=
  ((refuses_expect hnext).bind _).spanned.bind _

theorem refuses_function (hfunction : Next (· ≠ .keyword .function) input)
    (hsub : Next (· ≠ .keyword .sub) input) : (function inner).Refuses input :=
  ((((refuses_expect hfunction).bind _).orElseRefuses ((refuses_expect hsub).bind _)).bind
    _).spanned.bind _

theorem refuses_returning (hnext : Next (· ≠ .keyword .return) input) : returning.Refuses input :=
  ((refuses_expect hnext).bind _).spanned.bind _

theorem refuses_component (hnext : Next (· ≠ .keyword .component) input) :
    component.Refuses input :=
  ((refuses_expect hnext).bind _).spanned.bind _

theorem refuses_assignment (hnext : Next (fun token => ∀ name, token ≠ .identifier name) input) :
    assignment.Refuses input := by
  have hidentifier : identifier.Refuses input := by
    refine refuses_satisfy (hnext.imp fun token htoken => ?_)
    cases token with
    | identifier name => exact absurd rfl (htoken name)
    | _ => rfl
  exact (hidentifier.spanned.bind _).spanned.bind _

theorem refuses_statementOf (hnext : Next (startsStatement · = false) input) :
    (statementOf inner).Refuses input := by
  have hkeyword : ∀ {word : Keyword}, startsStatement (.keyword word) = true →
      Next (· ≠ .keyword word) input := by
    intro word hword
    refine hnext.imp ?_
    rintro _ htoken rfl
    rw [hword] at htoken
    cases htoken
  have hexpression : expression.Refuses input := by
    refine refuses_expression (hnext.imp fun token htoken => ?_) 0
    exact Bool.eq_false_iff.mpr fun hopens =>
      Bool.eq_false_iff.mp htoken (startsStatement_of_opens hopens)
  refine refuses_choice ?_
  simp only [List.forall_mem_cons, List.not_mem_nil, false_implies, implies_true, and_true]
  refine ⟨refuses_library (hkeyword rfl), refuses_print (hkeyword rfl),
    refuses_conditional (hkeyword rfl), refuses_function (hkeyword rfl) (hkeyword rfl),
    refuses_returning (hkeyword rfl), refuses_component (hkeyword rfl),
    refuses_assignment (hnext.imp ?_), hexpression.spanned.bind _⟩
  rintro _ htoken name rfl
  cases htoken

theorem reads_statementOf_plain {good : Statement → Prop}
    (hnext : Next (fun token => ∀ word, token ≠ .keyword word) input)
    (hreads : (Parser.choice [assignment, do
      let (span, value) ← spanned expression
      return Statement.expression span value]).Reads input rest good) :
    (statementOf inner).Reads input rest good := by
  have hkeyword : ∀ word : Keyword, Next (· ≠ .keyword word) input :=
    fun word => hnext.imp fun _ htoken => htoken word
  refine Refuses.choice (refuses_library (hkeyword _)) ?_
  refine Refuses.choice (refuses_print (hkeyword _)) ?_
  refine Refuses.choice (refuses_conditional (hkeyword _)) ?_
  refine Refuses.choice (refuses_function (hkeyword _) (hkeyword _)) ?_
  refine Refuses.choice (refuses_returning (hkeyword _)) ?_
  exact Refuses.choice (refuses_component (hkeyword _)) hreads

theorem reads_statementOf_assignment {good : Statement → Prop}
    (hreads : assignment.Reads input rest good) : (statementOf inner).Reads input rest good := by
  refine reads_statementOf_plain ?_ (Reads.choice hreads)
  rintro lexeme hlexeme word hword
  have hrefuses : assignment.Refuses input := by
    refine refuses_assignment fun found hfound name => ?_
    obtain rfl := Option.mem_unique hlexeme hfound
    simp [hword]
  obtain ⟨value, hvalue, -⟩ := hreads
  rw [hrefuses] at hvalue
  cases hvalue

/-- A written statement is read back, given that those nested in it are. -/
theorem reads_statementOf (hinner : ReadsStatements inner bound) {written : Statement}
    (hwritable : written.isWritable = true) (hlength : input.length ≤ bound)
    (hspells : Spells (Printer.statement written) input rest)
    (hrest : Next (· = .newline) rest) :
    (statementOf inner).Reads input rest (·.bare = written.bare) := by
  cases written with
  | library span path =>
      rw [Printer.statement] at hspells
      exact Reads.choice (reads_library hwritable hspells)
  | print span values =>
      rw [Printer.statement] at hspells
      have hprint := reads_print hspells hrest
      obtain ⟨place, tail, rfl, -⟩ := Spells.cons_iff.mp hspells
      refine Refuses.choice (refuses_library (.cons (by simp))) ?_
      exact Reads.choice hprint
  | assign span name value =>
      rw [Printer.statement] at hspells
      exact reads_statementOf_assignment (reads_assign hspells hrest)
  | assignMember span object name value =>
      exact reads_statementOf_assignment (reads_assignMember hwritable hspells hrest)
  | expression span value =>
      rw [Printer.statement] at hspells
      have hexpression := reads_expressionStatement hspells hrest
      obtain ⟨place, tail, rfl, -⟩ := Spells.cons_iff.mp hspells
      refine reads_statementOf_plain (.cons (by simp)) ?_
      exact Refuses.choice (refuses_assignment (.cons (by simp))) (Reads.choice hexpression)
  | conditional span branches otherwise =>
      have hconditional := reads_conditional hinner hwritable hlength hspells
      rw [Printer.statement] at hspells
      obtain ⟨place, tail, rfl, -⟩ := Spells.cons_iff.mp hspells
      refine Refuses.choice (refuses_library (.cons (by simp))) ?_
      refine Refuses.choice (refuses_print (.cons (by simp))) ?_
      exact Reads.choice hconditional
  | function span name names body isSub =>
      have hfunction := reads_function hinner hwritable hlength hspells
      rw [Printer.statement] at hspells
      obtain ⟨place, tail, rfl, -⟩ := Spells.cons_iff.mp hspells
      refine Refuses.choice (refuses_library (.cons ?_)) ?_
      · cases isSub <;> simp [Printer.functionWord]
      refine Refuses.choice (refuses_print (.cons ?_)) ?_
      · cases isSub <;> simp [Printer.functionWord]
      refine Refuses.choice (refuses_conditional (.cons ?_)) (Reads.choice hfunction)
      cases isSub <;> simp [Printer.functionWord]
  | «return» span value =>
      have hreturn := reads_returning hspells hrest
      have hnext : Next (· = .keyword .return) input := by
        cases value <;>
        · rw [Printer.statement, Spells.cons_iff] at hspells
          obtain ⟨place, tail, rfl, -⟩ := hspells
          exact .cons rfl
      have hkeyword : ∀ {word : Keyword}, .return ≠ word → Next (· ≠ .keyword word) input := by
        intro word hword
        refine hnext.imp ?_
        rintro _ rfl ⟨⟩
        exact hword rfl
      refine Refuses.choice (refuses_library (hkeyword (by simp))) ?_
      refine Refuses.choice (refuses_print (hkeyword (by simp))) ?_
      refine Refuses.choice (refuses_conditional (hkeyword (by simp))) ?_
      refine Refuses.choice (refuses_function (hkeyword (by simp)) (hkeyword (by simp))) ?_
      exact Reads.choice hreturn
  | component span name base members =>
      have hcomponent := reads_component hspells
      rw [Printer.statement] at hspells
      obtain ⟨place, tail, rfl, -⟩ := Spells.cons_iff.mp hspells
      refine Refuses.choice (refuses_library (.cons (by simp))) ?_
      refine Refuses.choice (refuses_print (.cons (by simp))) ?_
      refine Refuses.choice (refuses_conditional (.cons (by simp))) ?_
      refine Refuses.choice (refuses_function (.cons (by simp)) (.cons (by simp))) ?_
      refine Refuses.choice (refuses_returning (.cons (by simp))) ?_
      exact Reads.choice hcomponent

theorem readsStatements_below (bound : Nat) :
    ReadsStatements (below (fun inner (_ : Unit) => statementOf (inner ())) bound ()) bound := by
  induction bound using Nat.strong_induction_on with
  | h bound ih =>
      constructor
      · intro written input rest hlength hwritable hspells hrest
        have hreads := reads_statementOf (ih input.length hlength) hwritable le_rfl hspells hrest
        exact Reads.below (Reads.fix hreads) hlength
      · intro input hnext
        have hstarts := hnext.imp fun _ => not_startsStatement_of_closesBlock
        exact Refuses.below (Refuses.fix (refuses_statementOf hstarts))

theorem readsStatements (bound : Nat) : ReadsStatements statement bound := by
  constructor
  · intro written input rest _ hwritable hspells hrest
    have hreads := reads_statementOf (readsStatements_below input.length) hwritable le_rfl hspells
      hrest
    exact Reads.fix hreads
  · intro input hnext
    exact Refuses.fix (refuses_statementOf (hnext.imp fun _ => not_startsStatement_of_closesBlock))

theorem reads_program {statements : List Statement}
    (hwritable : Statement.areWritable statements = true)
    (hspells : Spells (Printer.lines statements) input []) :
    program.Reads input [] fun reads =>
      Statement.bareAll reads = Statement.bareAll statements := by
  have hnext : Next continues input := next_lines hspells .nil
  refine (refuses_separator hnext).optional.bind fun _ _ => ?_
  have hlines := reads_lines (readsStatements _) (fun hnext => (reads_separator hnext).orElse
    (do atEnd; return [])) hwritable (Nat.lt_succ_self _) hspells .nil
  exact Reads.bind hlines fun reads hreads => reads_atEnd.bind fun _ _ => .pure hreads

end Programs

theorem parse_of_reads {lexemes rest : List Lexeme} {good : List Statement → Prop}
    (hreads : program.Reads lexemes rest good) :
    ∃ statements, parse lexemes = .ok statements ∧ good statements := by
  obtain ⟨statements, hresult, hgood⟩ := hreads
  refine ⟨statements, ?_, hgood⟩
  unfold parse
  cases hreply : program lexemes with
  | mk result failure =>
      rw [hreply] at hresult
      cases hresult
      rfl

theorem exists_of_parse {lexemes : List Lexeme} {statements : List Statement}
    (hparse : parse lexemes = .ok statements) :
    ∃ rest, (program lexemes).result = some (statements, rest) := by
  unfold parse at hparse
  split at hparse
  · next read rest failure hread =>
      cases hparse
      exact ⟨rest, congrArg Reply.result hread⟩
  · cases hparse

end BrightScript.Grammar
