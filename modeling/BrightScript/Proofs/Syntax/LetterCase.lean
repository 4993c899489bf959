import BrightScript.Proofs.Syntax.Alike
import BrightScript.Syntax.Grammar

open BrightScript.Parser

namespace BrightScript

namespace Expression

mutual

/-- The expression with all names in lower case, those of entries too. -/
def lower : Expression → Expression
  | .literal span value => .literal span value
  | .variable span name => .variable span (Name.key name)
  | .array span items => .array span (lowerAll items)
  | .table span entries => .table span (lowerEntries entries)
  | .call span callee arguments => .call span (lower callee) (lowerAll arguments)
  | .member span object name => .member span (lower object) (Name.key name)
  | .binary span operator left right => .binary span operator (lower left) (lower right)
  | .unary span operator operand => .unary span operator (lower operand)

def lowerAll : List Expression → List Expression
  | [] => []
  | expression :: rest => lower expression :: lowerAll rest

def lowerEntries : List (String × Expression) → List (String × Expression)
  | [] => []
  | (name, expression) :: rest => (Name.key name, lower expression) :: lowerEntries rest

end

theorem lowerAll_eq_map (expressions : List Expression) :
    lowerAll expressions = expressions.map lower := by
  induction expressions with
  | nil => rfl
  | cons expression rest ih => rw [lowerAll, ih, List.map_cons]

theorem lowerEntries_eq_map (entries : List (String × Expression)) :
    lowerEntries entries = entries.map (Prod.map Name.key lower) := by
  induction entries with
  | nil => rfl
  | cons entry rest ih =>
      rw [lowerEntries, ih, List.map_cons]
      rfl

@[simp] theorem span_lower (expression : Expression) : expression.lower.span = expression.span := by
  cases expression <;> rfl

end Expression

namespace Statement

mutual

def lower : Statement → Statement
  | .library span path => .library span path
  | .print span values => .print span (values.map Expression.lower)
  | .assign span name value => .assign span (Name.key name) value.lower
  | .assignMember span object name value =>
    .assignMember span object.lower (Name.key name) value.lower
  | .expression span value => .expression span value.lower
  | .conditional span branches otherwise =>
    .conditional span (lowerBranches branches) (lowerOtherwise otherwise)
  | .function span name parameters body isSub =>
    .function span (Name.key name) (parameters.map Name.key) (lowerBlock body) isSub
  | .return span value => .return span (value.map Expression.lower)
  | .component span name base fields =>
    .component span name base (fields.map (Prod.map Name.key Expression.lower))

def lowerBlock : List Statement → List Statement
  | [] => []
  | statement :: rest => lower statement :: lowerBlock rest

def lowerBranches : List (Expression × List Statement) → List (Expression × List Statement)
  | [] => []
  | (condition, body) :: rest => (condition.lower, lowerBlock body) :: lowerBranches rest

/-- The statements for the case that no condition holds, with all names in lower case. -/
def lowerOtherwise : Option (List Statement) → Option (List Statement)
  | some body => some (lowerBlock body)
  | none => none

end

theorem lowerBlock_eq_map : lowerBlock = List.map lower := by
  funext statements
  induction statements with
  | nil => rfl
  | cons statement rest ih => rw [lowerBlock, ih, List.map_cons]

theorem lowerBranches_eq_map :
    lowerBranches = List.map (Prod.map Expression.lower (List.map lower)) := by
  funext branches
  induction branches with
  | nil => rfl
  | cons branch rest ih =>
      rw [lowerBranches, ih, List.map_cons, lowerBlock_eq_map]
      rfl

theorem lowerOtherwise_eq_map : lowerOtherwise = Option.map (List.map lower) := by
  funext otherwise
  cases otherwise with
  | none => rfl
  | some body => rw [lowerOtherwise, lowerBlock_eq_map, Option.map_some]

end Statement

namespace Grammar

theorem caseless_newlines : Caseless (List.map id) newlines := Alike.newline.many

theorem caseless_separator : Caseless (List.map id) separator :=
  (Alike.newline.orElse (.symbol .colon)).many1

theorem caseless_opening (mark : Symbol) :
    Caseless (List.map id) (do symbol mark; newlines) :=
  (Alike.symbol mark).bind fun _ _ _ => caseless_newlines

theorem caseless_closing (mark : Symbol) :
    Caseless (List.map id) (do let breaks ← newlines; symbol mark; return breaks) :=
  caseless_newlines.bind fun _ _ hbreaks => (Alike.symbol mark).bind fun _ _ _ => .pure hbreaks

theorem caseless_literal : Caseless id literal := by
  refine .satisfy fun token => ?_
  cases token <;> rfl

theorem caseless_here : Caseless id here := fun _ _ hinput =>
  .taken (congrArg Span.start (cover_eq hinput)) hinput rfl

theorem foldl_shown {α β γ δ : Type} {shown : α → γ} {visible : β → δ} {step : α → β → α}
    (hstep : ∀ value value' part part', shown value = shown value' → visible part = visible part' →
      shown (step value part) = shown (step value' part')) {parts parts' : List β}
    (hparts : parts.map visible = parts'.map visible) {first first' : α}
    (hfirst : shown first = shown first') :
    shown (parts.foldl step first) = shown (parts'.foldl step first') := by
  induction parts generalizing parts' first first' with
  | nil =>
      obtain rfl := List.map_eq_nil_iff.mp hparts.symm
      exact hfirst
  | cons part rest ih =>
      obtain ⟨part', rest', rfl, hpart, hrest⟩ := List.map_eq_cons_iff.mp hparts.symm
      exact ih hrest.symm (hstep _ _ _ _ hfirst hpart.symm)

def Suffix.lower : Suffix → Suffix
  | .call arguments => .call (arguments.map Expression.lower)
  | .member name => .member (Name.key name)

theorem Suffix.apply_lower (span : Span) (object : Expression) (suffix : Suffix) :
    (suffix.apply span object).lower = suffix.lower.apply span object.lower := by
  cases suffix with
  | call arguments => exact congrArg _ (Expression.lowerAll_eq_map arguments)
  | member name => rfl

section Expressions

variable {inner inner' : Nat → Parser Expression}
  (hinner : ∀ power, Alike Expression.lower (inner power) (inner' power))
include hinner

theorem alike_array : Alike Expression.lower (array inner) (array inner') := by
  have hcomma : Caseless (List.map id) (do let _ ← newlines; symbol .comma; newlines) :=
    caseless_newlines.bind fun _ _ _ => caseless_opening .comma
  have hitems := (caseless_opening .squareOpen).between ((hinner 0).separatedByTrailing hcomma)
    (caseless_closing .squareClose)
  refine .spanned_bind _ hitems fun span items items' hitems => ?_
  rw [Expression.lower, Expression.lower, Expression.lowerAll_eq_map, hitems,
    Expression.lowerAll_eq_map]

theorem alike_entry :
    Alike (Prod.map Name.key Expression.lower) (entry inner) (entry inner') := by
  have hkey : Caseless Name.key (identifier.orElse text) :=
    Alike.identifier.orElse (Alike.text.imp fun _ _ htext => congrArg Name.key htext)
  refine hkey.bind fun key key' hkey => (Alike.symbol _).bind fun _ _ _ => ?_
  exact (hinner 0).bind fun value value' hvalue => .pure (Prod.ext hkey hvalue)

theorem alike_table : Alike Expression.lower (table inner) (table inner') := by
  have hmark : Caseless (List.map id) entrySeparator :=
    (caseless_opening .comma).orElse Alike.newline.many1
  have hentries := (caseless_opening .curlyOpen).between
    ((alike_entry hinner).separatedByTrailing hmark) (caseless_closing .curlyClose)
  refine .spanned_bind _ hentries fun span entries entries' hentries => ?_
  rw [Expression.lower, Expression.lower, Expression.lowerEntries_eq_map, hentries,
    Expression.lowerEntries_eq_map]

theorem alike_atom : Alike Expression.lower (atom inner) (atom inner') := by
  refine .orElse ?_ (.orElse ?_ ((alike_array hinner).orElse ((alike_table hinner).orElse ?_)))
  · refine .spanned_bind _ caseless_literal fun span value value' hvalue => ?_
    rw [id, id] at hvalue
    rw [hvalue]
  · refine .spanned_bind _ Alike.identifier fun span name name' hname => ?_
    rw [Expression.lower, Expression.lower, hname]
  · exact (Alike.symbol _).between (hinner 0) (Alike.symbol _)

theorem alike_suffix : Alike Suffix.lower ((arguments inner).orElse memberAccess)
    ((arguments inner').orElse memberAccess) := by
  have hvalues := (Alike.symbol .roundOpen).between
    ((hinner 0).separatedBy (Alike.symbol .comma)) (Alike.symbol .roundClose)
  refine Alike.orElse (hvalues.bind fun values values' hvalues => .pure ?_) ?_
  · rw [Suffix.lower, Suffix.lower, hvalues]
  · refine (Alike.symbol .dot).bind fun _ _ _ => Alike.identifier.bind fun name name' hname => ?_
    exact .pure (congrArg Suffix.member hname)

theorem alike_chain : Alike Expression.lower (chain inner) (chain inner') := by
  refine caseless_here.bind fun start start' hstart => ?_
  obtain rfl : start = start' := hstart
  refine (alike_atom hinner).bind fun object object' hobject => ?_
  refine Alike.bind (alike_suffix hinner).spanned.many fun suffixes suffixes' hsuffixes => .pure ?_
  refine foldl_shown ?_ hsuffixes hobject
  rintro object object' ⟨span, suffix⟩ ⟨span', suffix'⟩ hobject hsuffix
  obtain ⟨rfl, hlower⟩ := Prod.mk.inj hsuffix
  rw [Suffix.apply_lower, Suffix.apply_lower, hobject]
  exact congrArg (Suffix.apply _ _) hlower

theorem alike_unary : Alike Expression.lower (unary inner) (unary inner') := by
  have hoperator : Caseless id (satisfy unaryOperator?) :=
    .satisfy fun token => by cases token <;> rfl
  refine .spanned_bind (Prod.map id Expression.lower) (hoperator.bind ?_) ?_
  · rintro ⟨power, operator⟩ _ rfl
    exact (hinner power).bind fun operand operand' hoperand => .pure (Prod.ext rfl hoperand)
  · rintro span ⟨operator, operand⟩ ⟨operator', operand'⟩ hread
    obtain ⟨rfl, hoperand⟩ := Prod.mk.inj hread
    exact congrArg (Expression.unary span operator) hoperand

theorem alike_infixStep (power : Nat) :
    Alike (Prod.map id Expression.lower) (infixStep inner power) (infixStep inner' power) := by
  have hoperator : Caseless id
      (satisfy fun token => (infixOperator? token).filter fun found => power ≤ found.1) :=
    .satisfy fun token => by cases token <;> rfl
  refine hoperator.bind ?_
  rintro ⟨strength, operator⟩ _ rfl
  exact (hinner (strength + 1)).bind fun right right' hright => .pure (Prod.ext rfl hright)

theorem alike_operation (power : Nat) :
    Alike Expression.lower (operation inner power) (operation inner' power) := by
  refine caseless_here.bind fun start start' hstart => ?_
  obtain rfl : start = start' := hstart
  refine ((alike_unary hinner).orElse (alike_chain hinner)).bind fun first first' hfirst => ?_
  refine Alike.bind (alike_infixStep hinner power).spanned.many fun steps steps' hsteps => .pure ?_
  refine foldl_shown ?_ hsteps hfirst
  rintro left left' ⟨span, operator, right⟩ ⟨span', operator', right'⟩ hleft hstep
  obtain ⟨rfl, hoperation⟩ := Prod.mk.inj hstep
  obtain ⟨rfl, hright⟩ := Prod.mk.inj hoperation
  rw [Expression.lower, Expression.lower, hleft, hright]
  rfl

end Expressions

theorem caseless_expression : Caseless Expression.lower expression :=
  Alike.fix (fun _ _ hinner power => alike_operation hinner power) 0

theorem caseless_library : Caseless Statement.lower library := by
  have hnamed : Caseless id (spanned do
      keyword .library
      text) :=
    ((Alike.keyword _).bind fun _ _ _ => Alike.text).spanned.imp fun value value' hvalue => by
      rwa [Prod.map_id] at hvalue
  intro input others hinput
  have hreply := hnamed input others hinput
  unfold library
  dsimp only
  generalize spanned _ input = reply, spanned _ others = reply' at hreply ⊢
  cases hreply with
  | refused hfailure => exact .refused hfailure
  | @taken value value' rest rest' _ _ hvalue hrest hfailure =>
      obtain rfl : value = value' := hvalue
      dsimp only
      split
      · exact .taken rfl hrest hfailure
      · exact .refused (congrArg (fun rest => some (Failure.mk rest (some value.2))) hinput)

theorem caseless_print : Caseless Statement.lower print := by
  have hmark : Caseless id ((symbol .comma).orElse (symbol .semicolon)) :=
    (Alike.symbol _).orElse (Alike.symbol _)
  refine .spanned_bind (List.map Expression.lower) ?_ fun span values values' hvalues => ?_
  · exact (Alike.keyword _).bind fun _ _ _ => caseless_expression.separatedByTrailing hmark
  · exact congrArg (Statement.print span) hvalues

theorem caseless_typeAnnotation : Caseless id typeAnnotation := by
  have hname : Caseless (id : Unit → Unit) (do let _ ← identifier) :=
    Alike.identifier.bind fun _ _ _ => .pure rfl
  refine Alike.bind (Alike.satisfy (fun token => ?_) : Caseless (id : Unit → Unit) _)
    fun _ _ _ => hname.orElse ((Alike.keyword _).orElse (Alike.keyword _))
  cases token with
  | identifier name =>
      simp only [Token.lower_identifier, Name.same, Name.key_key]
      rfl
  | _ => rfl

theorem caseless_parameters : Caseless (List.map Name.key) parameters := by
  have hparameter : Caseless Name.key (do
      let name ← identifier
      let _ ← typeAnnotation.optional
      return name) :=
    Alike.identifier.bind fun _ _ hname =>
      caseless_typeAnnotation.optional.bind fun _ _ _ => .pure hname
  exact (Alike.symbol _).between (hparameter.separatedBy (Alike.symbol _)) (Alike.symbol _)

theorem caseless_returning : Caseless Statement.lower returning := by
  refine .spanned_bind (Option.map Expression.lower) ?_ fun span value value' hvalue => ?_
  · exact (Alike.keyword _).bind fun _ _ _ => caseless_expression.optional
  · exact congrArg (Statement.return span) hvalue

theorem caseless_field : Caseless (Prod.map Name.key Expression.lower) field := by
  refine (Alike.keyword _).bind fun _ _ _ => Alike.identifier.bind fun name name' hname => ?_
  refine (Alike.symbol _).bind fun _ _ _ => ?_
  exact caseless_expression.bind fun value value' hvalue => .pure (Prod.ext hname hvalue)

theorem caseless_component : Caseless Statement.lower component := by
  have hbase : Caseless id (do keyword .extends; text) :=
    (Alike.keyword _).bind fun _ _ _ => Alike.text
  have hfields : Caseless (List.map (Prod.map Name.key Expression.lower)) (many do
      let declared ← field
      let _ ← separator
      return declared) :=
    (caseless_field.bind fun _ _ hfield => caseless_separator.bind fun _ _ _ => .pure hfield).many
  refine .spanned_bind (Prod.map id (Prod.map id (List.map (Prod.map Name.key Expression.lower))))
    ?_ ?_
  · refine (Alike.keyword _).bind fun _ _ _ => Alike.text.bind fun name name' hname => ?_
    refine hbase.optional.bind fun base base' hbase => caseless_separator.bind fun _ _ _ => ?_
    refine Alike.bind hfields fun fields fields' hfields => ?_
    rw [Option.map_id] at hbase
    exact (Alike.keyword _).bind fun _ _ _ => (Alike.keyword _).bind fun _ _ _ =>
      .pure (Prod.ext hname (Prod.ext hbase hfields))
  · rintro span ⟨name, base, fields⟩ ⟨name', base', fields'⟩ hread
    obtain ⟨rfl, hrest⟩ := Prod.mk.inj hread
    obtain ⟨rfl, hfields⟩ := Prod.mk.inj hrest
    exact congrArg (Statement.component span name base) hfields

theorem lower_memberPath {root root' : Span × String} {path path' : List (Span × String)}
    (hroot : Prod.map id Name.key root = Prod.map id Name.key root')
    (hpath : path.map (Prod.map id Name.key) = path'.map (Prod.map id Name.key)) :
    (memberPath root path).lower = (memberPath root' path').lower := by
  refine foldl_shown ?_ hpath ?_
  · rintro object object' ⟨span, name⟩ ⟨span', name'⟩ hobject hstep
    obtain ⟨rfl, hname⟩ := Prod.mk.inj hstep
    have hspan : object.span = object'.span := by
      rw [← Expression.span_lower, hobject, Expression.span_lower]
    simp only [Expression.lower, hspan, hobject, hname]
    rfl
  · obtain ⟨hspan, hname⟩ := Prod.mk.inj hroot
    rw [Expression.lower, Expression.lower, hname]
    exact congrArg (Expression.variable · _) hspan

theorem caseless_assignment : Caseless Statement.lower assignment := by
  have hstep : Caseless (Prod.map id Name.key) (do symbol .dot; spanned identifier) :=
    (Alike.symbol _).bind fun _ _ _ => Alike.identifier.spanned
  have hparts : Caseless (Prod.map (Prod.map id Name.key)
      (Prod.map (List.map (Prod.map id Name.key)) Expression.lower)) (do
        let root ← spanned identifier
        let path ← many (do symbol .dot; spanned identifier)
        symbol .equal
        let value ← expression
        return (root, path, value)) := by
    refine Alike.identifier.spanned.bind fun root root' hroot => ?_
    refine Alike.bind hstep.many fun path path' hpath => (Alike.symbol _).bind fun _ _ _ => ?_
    exact caseless_expression.bind fun value value' hvalue =>
      .pure (Prod.ext hroot (Prod.ext hpath hvalue))
  refine hparts.spanned.bind ?_
  rintro ⟨span, root, path, value⟩ ⟨span', root', path', value'⟩ hread
  obtain ⟨rfl, hparts⟩ := Prod.mk.inj hread
  obtain ⟨hroot, hbehind⟩ := Prod.mk.inj hparts
  obtain ⟨hpath, hvalue⟩ := Prod.mk.inj hbehind
  have hlast : path.getLast?.map (Prod.map id Name.key) =
      path'.getLast?.map (Prod.map id Name.key) := by
    rw [← List.getLast?_map, hpath, List.getLast?_map]
  have hdropLast : path.dropLast.map (Prod.map id Name.key) =
      path'.dropLast.map (Prod.map id Name.key) := by
    rw [List.map_dropLast, hpath, List.map_dropLast]
  have hobject := lower_memberPath hroot hdropLast
  dsimp only
  generalize path.getLast? = last, path'.getLast? = last' at hlast ⊢
  cases last with
  | none =>
      obtain rfl := Option.map_eq_none_iff.mp hlast.symm
      refine .pure ?_
      rw [Statement.lower, Statement.lower, hvalue]
      exact congrArg (Statement.assign _ · _) (congrArg Prod.snd hroot)
  | some last =>
      obtain ⟨last', rfl, hname⟩ := Option.map_eq_some_iff.mp hlast.symm
      refine .pure ?_
      rw [Statement.lower, Statement.lower, hvalue, hobject]
      exact congrArg (Statement.assignMember _ _ · _) (congrArg Prod.snd hname.symm)

section Statements

variable {inner inner' : Parser Statement} (hinner : Alike Statement.lower inner inner')
include hinner

theorem alike_block : Alike (List.map Statement.lower) (block inner) (block inner') := by
  refine caseless_separator.bind fun _ _ _ => Alike.many ?_
  exact hinner.bind fun _ _ hread => caseless_separator.bind fun _ _ _ => .pure hread

theorem alike_branch : Alike (Prod.map Expression.lower (List.map Statement.lower)) (branch inner)
    (branch inner') := by
  refine caseless_expression.bind fun condition condition' hcondition => ?_
  refine (Alike.keyword .then).optional.bind fun _ _ _ => ?_
  exact (alike_block hinner).bind fun body body' hbody => .pure (Prod.ext hcondition hbody)

theorem alike_conditional : Alike Statement.lower (conditional inner) (conditional inner') := by
  have hfurther : Caseless id ((keyword .elseIf).orElse (do keyword .else; keyword .if)) :=
    (Alike.keyword _).orElse ((Alike.keyword _).bind fun _ _ _ => Alike.keyword _)
  have hothers := (hfurther.bind fun _ _ _ => alike_branch hinner).many
  have hotherwise : Alike (Option.map (List.map Statement.lower))
      (optional (do keyword .else; block inner)) (optional (do keyword .else; block inner')) :=
    ((Alike.keyword _).bind fun _ _ _ => alike_block hinner).optional
  have hend : Caseless id (orElse (do keyword .end; keyword .if) (keyword .endIf)) :=
    Alike.orElse ((Alike.keyword _).bind fun _ _ _ => Alike.keyword _) (Alike.keyword _)
  refine .spanned_bind (Prod.map (List.map (Prod.map Expression.lower (List.map Statement.lower)))
    (Option.map (List.map Statement.lower))) ?_ ?_
  · refine (Alike.keyword _).bind fun _ _ _ => ?_
    refine (alike_branch hinner).bind fun first first' hfirst => ?_
    refine Alike.bind hothers fun others others' hothers => ?_
    exact hotherwise.bind fun otherwise otherwise' hotherwise => hend.bind fun _ _ _ =>
      .pure (Prod.ext (List.cons_eq_cons.mpr ⟨hfirst, hothers⟩) hotherwise)
  · rintro span ⟨branches, otherwise⟩ ⟨branches', otherwise'⟩ hread
    obtain ⟨hbranches, hotherwise⟩ := Prod.mk.inj hread
    rw [Statement.lower, Statement.lower, Statement.lowerBranches_eq_map,
      Statement.lowerOtherwise_eq_map, hbranches, hotherwise]

theorem alike_function : Alike Statement.lower (function inner) (function inner') := by
  have hkind : Caseless id
      (orElse (do keyword .function; return false) (do keyword .sub; return true)) :=
    Alike.orElse ((Alike.keyword _).bind fun _ _ _ => .pure rfl)
      ((Alike.keyword _).bind fun _ _ _ => .pure rfl)
  have hend : Caseless id ((keyword .function).orElse (keyword .sub)) :=
    (Alike.keyword _).orElse (Alike.keyword _)
  refine .spanned_bind (Prod.map id (Prod.map Name.key
    (Prod.map (List.map Name.key) (List.map Statement.lower)))) ?_ ?_
  · refine hkind.bind fun isSub isSub' hisSub => Alike.identifier.bind fun name name' hname => ?_
    refine caseless_parameters.bind fun names names' hnames => ?_
    refine caseless_typeAnnotation.optional.bind fun _ _ _ => ?_
    refine (alike_block hinner).bind fun body body' hbody => (Alike.keyword _).bind fun _ _ _ => ?_
    exact hend.bind fun _ _ _ => .pure (Prod.ext hisSub (Prod.ext hname (Prod.ext hnames hbody)))
  · rintro span ⟨isSub, name, names, body⟩ ⟨isSub', name', names', body'⟩ hread
    obtain ⟨rfl, hparts⟩ := Prod.mk.inj hread
    obtain ⟨hname, hbehind⟩ := Prod.mk.inj hparts
    obtain ⟨hnames, hbody⟩ := Prod.mk.inj hbehind
    rw [Statement.lower, Statement.lower, Statement.lowerBlock_eq_map, hname]
    simp only [hnames, hbody, id]

theorem alike_statementOf : Alike Statement.lower (statementOf inner) (statementOf inner') := by
  refine caseless_library.orElse (caseless_print.orElse ((alike_conditional hinner).orElse
    ((alike_function hinner).orElse (caseless_returning.orElse (caseless_component.orElse
      (caseless_assignment.orElse ?_))))))
  exact .spanned_bind _ caseless_expression fun span value value' hvalue =>
    congrArg (Statement.expression span) hvalue

end Statements

theorem caseless_statement : Caseless Statement.lower statement :=
  Alike.fix (fun _ _ hinner _ => alike_statementOf (hinner ())) ()

theorem caseless_program : Caseless (List.map Statement.lower) program := by
  have hend : Caseless (List.map id) (separator.orElse (do atEnd; return [])) :=
    caseless_separator.orElse (Alike.atEnd.bind fun _ _ _ => .pure rfl)
  have hline : Caseless Statement.lower (do
      let read ← statement
      let _ ← separator.orElse (do atEnd; return [])
      return read) :=
    caseless_statement.bind fun _ _ hread => hend.bind fun _ _ _ => .pure hread
  refine caseless_separator.optional.bind fun _ _ _ => ?_
  exact Alike.bind hline.many fun _ _ hreads => Alike.atEnd.bind fun _ _ _ => .pure hreads

def Error.lower (error : Error) : Error := ⟨error.span, error.found.map Token.lower, error.library⟩

theorem errorOf_lower (lexemes : List Lexeme) (failure : Failure) :
    (errorOf lexemes failure).lower = errorOf (lexemes.map Lexeme.lower) failure.lower := by
  obtain ⟨rest, library⟩ := failure
  cases rest with
  | nil =>
      simp only [errorOf, Failure.lower, List.map_nil, List.getLast?_map, Option.map_map]
      rfl
  | cons lexeme rest => rfl

/-- Token lists that differ in the letter case of identifiers only are read alike: as statements
that differ in the letter case of names only, or with the same error. -/
theorem parse_alike {lexemes others : List Lexeme}
    (hlexemes : lexemes.map Lexeme.lower = others.map Lexeme.lower) :
    ((parse lexemes).map (List.map Statement.lower)).mapError Error.lower =
      ((parse others).map (List.map Statement.lower)).mapError Error.lower := by
  have hreply := caseless_program lexemes others hlexemes
  unfold parse
  generalize program lexemes = reply, program others = reply' at hreply ⊢
  cases hreply with
  | @refused failure failure' hfailure =>
      refine congrArg Except.error ?_
      have hgetD : ∀ (failure : Option Failure) (lexemes : List Lexeme),
          (failure.getD ⟨lexemes, none⟩).lower =
            (failure.map Failure.lower).getD ⟨lexemes.map Lexeme.lower, none⟩ := by
        rintro (_ | _) lexemes <;> rfl
      rw [errorOf_lower, errorOf_lower, hgetD, hgetD, hfailure, hlexemes]
  | taken hvalue hrest hfailure => exact congrArg Except.ok hvalue

end Grammar

end BrightScript
