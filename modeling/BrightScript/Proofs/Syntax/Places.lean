import BrightScript.Proofs.Syntax.Nesting
import BrightScript.Proofs.Syntax.Statements

open BrightScript.Parser

namespace BrightScript.Grammar

theorem takes_expect (token : Token) : (expect token).Takes fun taken _ => taken ≠ [] :=
  .satisfy fun _ _ _ => List.cons_ne_nil _ _

theorem takes_keyword (word : Keyword) : (keyword word).Takes fun taken _ => taken ≠ [] :=
  takes_expect _

theorem advances_expect (token : Token) : (expect token).Advances := .satisfy _

theorem advances_symbol (mark : Symbol) : (symbol mark).Advances := advances_expect _

theorem advances_keyword (word : Keyword) : (keyword word).Advances := advances_expect _

theorem advances_newlines : newlines.Advances := (advances_expect _).many

theorem advances_comma : Advances (do let _ ← newlines; symbol .comma; newlines) :=
  advances_newlines.bind fun _ => (advances_symbol _).bind fun _ => advances_newlines

theorem advances_entrySeparator : entrySeparator.Advances :=
  Takes.orElse ((advances_symbol _).bind fun _ => advances_newlines)
    ((advances_expect _).bind fun _ => (advances_expect _).many.bind fun _ => .pure _)

theorem advances_separator : separator.Advances := by
  have hmark : ((expect .newline).orElse (symbol .colon)).Advances :=
    Takes.orElse (advances_expect _) (advances_symbol _)
  exact hmark.bind fun _ => hmark.many.bind fun _ => .pure _

theorem advances_typeAnnotation : typeAnnotation.Advances := by
  refine (Advances.satisfy _).bind fun _ => Takes.choice ?_
  simp only [List.forall_mem_cons, List.not_mem_nil, false_implies, implies_true, and_true]
  exact ⟨(Advances.satisfy _).bind fun _ => .pure _, advances_keyword _, advances_keyword _⟩

theorem advances_parameters : parameters.Advances := by
  refine .between (advances_symbol _) (.separatedBy ?_ (advances_symbol _)) (advances_symbol _)
  exact (Advances.satisfy _).bind fun _ => advances_typeAnnotation.optional.bind fun _ => .pure _

section Lists

variable {α β : Type} {item : Parser α} {separator : Parser β} {node : α → SyntaxNode}

theorem laid_many (hitem : item.Takes fun taken value => Laid taken [node value]) :
    Takes (many item) fun taken values => Laid taken (values.map node) :=
  .many hitem (.nil _) fun _ _ _ _ hvalue hvalues => hvalue.append hvalues

theorem laid_separatedBy (hitem : item.Takes fun taken value => Laid taken [node value])
    (hseparator : separator.Advances) :
    (separatedBy item separator).Takes fun taken values => Laid taken (values.map node) := by
  have hfirst : item.optional.Takes fun taken first => Laid taken (first.toList.map node) :=
    .optional hitem (.nil _)
  refine hfirst.bind fun taken first hfirst => ?_
  cases first with
  | none => exact .pure (Laid.nil _)
  | some first =>
      have hnext : (do let _ ← separator; item).Takes fun taken value => Laid taken [node value] :=
        hseparator.skip fun _ _ => hitem.imp fun _ _ hvalue => hvalue.behind _
      refine (laid_many hnext).bind fun more others hothers => .pure ?_
      rw [List.append_nil]
      exact hfirst.append hothers

theorem laid_separatedByTrailing (hitem : item.Takes fun taken value => Laid taken [node value])
    (hseparator : separator.Advances) :
    (separatedByTrailing item separator).Takes fun taken values =>
      Laid taken (values.map node) := by
  refine (laid_separatedBy hitem hseparator).bind fun taken items hitems => ?_
  dsimp only
  split
  · refine hseparator.optional.skip fun _ _ => .pure ?_
    exact hitems.before _
  · exact .pure (hitems.before _)

end Lists

theorem built_between {α β : Type} {opening closing : Parser β} {parser : Parser α}
    {parts : α → List SyntaxNode} (hopening : opening.Takes fun taken _ => taken ≠ [])
    (hparser : parser.Takes fun taken value => Laid taken (parts value))
    (hclosing : closing.Advances) :
    (between opening parser closing).Takes fun taken value => Built taken (parts value) := by
  refine hopening.bind fun front _ hne => hparser.bind fun taken value hlaid => ?_
  refine hclosing.skip fun _ _ => .pure ?_
  exact ⟨List.append_ne_nil_of_left_ne_nil hne _, (hlaid.before _).behind _⟩

theorem built_spanned {α β : Type} {parser : Parser α} {parts : α → List SyntaxNode}
    {next : Span × α → Parser β} {node : β → SyntaxNode}
    (hparser : parser.Takes fun taken value => Built taken (parts value))
    (hnext : ∀ span value, ∃ made, next (span, value) = pure made ∧ (node made).span = span ∧
      (node made).parts = parts value) :
    (spanned parser >>= next).Takes fun taken made => Built taken [node made] := by
  refine hparser.spanned.bind fun taken read hread => ?_
  obtain ⟨span, value⟩ := read
  obtain ⟨made, hmade, hspan, hparts⟩ := hnext span value
  rw [hmade]
  refine .pure ?_
  rw [List.append_nil]
  exact Built.node (hparts ▸ hread.2) (hspan.trans hread.1)

section Expressions

variable {inner : Nat → Parser Expression}
  (hinner : ∀ power, (inner power).Takes fun taken value => Built taken [.expression value])
include hinner

theorem built_array :
    (array inner).Takes fun taken value => Built taken [.expression value] := by
  have hopening : (do symbol .squareOpen; newlines).Takes fun taken _ => taken ≠ [] :=
    (takes_expect _).bind fun _ _ hne => advances_newlines.imp fun _ _ _ =>
      List.append_ne_nil_of_left_ne_nil hne _
  have hclosing : (do let breaks ← newlines; symbol .squareClose; return breaks).Advances :=
    advances_newlines.bind fun _ => (advances_symbol _).bind fun _ => .pure _
  have hitems := laid_separatedByTrailing ((hinner 0).imp fun _ _ h => h.laid) advances_comma
  have hinside := built_between hopening hitems hclosing
  exact built_spanned hinside fun span items => ⟨_, rfl, rfl, rfl⟩

theorem built_entry :
    (entry inner).Takes fun taken value => Built taken [.expression value.2] := by
  have hkey : (identifier.orElse text).Advances :=
    Takes.orElse (Advances.satisfy _) (Advances.satisfy _)
  refine hkey.skip fun _ _ => (advances_symbol _).skip fun _ _ => ?_
  refine (hinner 0).bind fun taken value hvalue => .pure ?_
  exact ((hvalue.before _).behind _).behind _

theorem built_table :
    (table inner).Takes fun taken value => Built taken [.expression value] := by
  have hopening : (do symbol .curlyOpen; newlines).Takes fun taken _ => taken ≠ [] :=
    (takes_expect _).bind fun _ _ hne => advances_newlines.imp fun _ _ _ =>
      List.append_ne_nil_of_left_ne_nil hne _
  have hclosing : (do let breaks ← newlines; symbol .curlyClose; return breaks).Advances :=
    advances_newlines.bind fun _ => (advances_symbol _).bind fun _ => .pure _
  have hentries := laid_separatedByTrailing ((built_entry hinner).imp fun _ _ h => h.laid)
    advances_entrySeparator
  have hinside := built_between hopening hentries hclosing
  exact built_spanned hinside fun span entries => ⟨_, rfl, rfl, rfl⟩

theorem built_atom : (atom inner).Takes fun taken value => Built taken [.expression value] := by
  refine .choice ?_
  simp only [List.forall_mem_cons, List.not_mem_nil, false_implies, implies_true, and_true]
  refine ⟨?_, ?_, built_array hinner, built_table hinner, ?_⟩
  · have hliteral : literal.Takes fun taken _ => Built taken [] :=
      .satisfy fun _ _ _ => ⟨List.cons_ne_nil _ _, .nil _⟩
    exact built_spanned hliteral fun span value => ⟨_, rfl, rfl, rfl⟩
  · have hname : identifier.Takes fun taken _ => Built taken [] :=
      .satisfy fun _ _ _ => ⟨List.cons_ne_nil _ _, .nil _⟩
    exact built_spanned hname fun span name => ⟨_, rfl, rfl, rfl⟩
  · exact built_between (takes_expect _) ((hinner 0).imp fun _ _ h => h.laid) (advances_symbol _)

/-- The parts that a suffix adds to an expression. -/
def Suffix.parts : Suffix → List SyntaxNode
  | .call arguments => arguments.map .expression
  | .member _ => []

theorem built_suffix :
    ((arguments inner).orElse memberAccess).Takes fun taken suffix => Built taken suffix.parts := by
  refine .orElse ?_ ?_
  · have hvalues := laid_separatedBy ((hinner 0).imp fun _ _ h => h.laid) (advances_symbol .comma)
    refine (built_between (takes_expect _) hvalues (advances_symbol _)).bind fun _ _ h => .pure ?_
    exact h.before _
  · refine (takes_expect _).bind fun _ _ hne => (Advances.satisfy _).skip fun _ _ => .pure ?_
    exact ⟨List.append_ne_nil_of_left_ne_nil hne _, .nil _⟩

omit hinner in
theorem takes_here {α : Type} {next : Nat → Parser α} {good : List Lexeme → α → Prop}
    (hnext : ∀ start, (next start).Takes fun taken value =>
      taken ≠ [] ∧ ((cover taken).start = start → good taken value)) :
    (here >>= next).Takes good := by
  intro input value rest hresult
  rw [result_bind] at hresult
  obtain ⟨taken, rfl, hne, hgood⟩ := hnext _ input value rest hresult
  refine ⟨taken, rfl, hgood ?_⟩
  rw [cover, List.head?_append_of_ne_nil _ hne]

omit hinner in
/-- Steps behind an operand are joined to it one after the other. Each result begins where the
operand does and ends with its step. -/
theorem built_steps {α : Type} {step : Parser α} {parts : α → List SyntaxNode}
    (join : Span → Expression → α → Expression)
    (hstep : step.Takes fun taken value => Built taken (parts value))
    (hspan : ∀ span object value, (join span object value).span = span)
    (hparts : ∀ span object value, (join span object value).parts =
      .expression object :: parts value) (start : Nat) :
    Takes (many (spanned step)) fun more steps => ∀ taken object,
      Built taken [.expression object] → (cover taken).start = start →
        Built (taken ++ more) [.expression
          (steps.foldl (fun object step => join ⟨start, step.1.stop⟩ object step.2) object)] := by
  refine .many hstep.spanned (fun taken object hobject _ => hobject.before _) ?_
  rintro here ⟨span, value⟩ more steps ⟨hcover, hvalue⟩ ih taken object hobject hstart
  dsimp only at hcover hvalue
  have hplace : cover (taken ++ here) = ⟨start, span.stop⟩ := by
    rw [cover_append hobject.ne_nil hvalue.ne_nil, hstart, hcover]
  have hjoined : Built (taken ++ here) [.expression (join ⟨start, span.stop⟩ object value)] := by
    refine Built.node ?_ ((hspan _ _ _).trans hplace.symm)
    rw [SyntaxNode.parts, hparts]
    exact hobject.append hvalue.laid
  rw [← List.append_assoc]
  exact ih (taken ++ here) _ hjoined (congrArg Span.start hplace)

theorem built_chain : (chain inner).Takes fun taken value => Built taken [.expression value] := by
  refine takes_here fun start => (built_atom hinner).bind fun taken object hobject => ?_
  have hsuffixes := built_steps Suffix.apply (built_suffix hinner)
    (by rintro span object (_ | _) <;> rfl) (by rintro span object (_ | _) <;> rfl) start
  refine hsuffixes.bind fun more suffixes hall => .pure ?_
  rw [List.append_nil]
  refine ⟨List.append_ne_nil_of_left_ne_nil hobject.ne_nil _, fun hstart => ?_⟩
  refine hall taken object hobject (Eq.trans ?_ hstart)
  rw [cover, cover, List.head?_append_of_ne_nil _ hobject.ne_nil]

theorem built_unary : (unary inner).Takes fun taken value => Built taken [.expression value] := by
  have hinside : Takes (do
      let read ← satisfy unaryOperator?
      let operand ← inner read.1
      return (read.2, operand)) fun taken read => Built taken [.expression read.2] := by
    refine (Advances.satisfy _).skip fun _ _ => (hinner _).bind fun _ _ hoperand => .pure ?_
    exact (hoperand.before _).behind _
  exact built_spanned hinside fun span read => ⟨_, rfl, rfl, rfl⟩

theorem built_infixStep (power : Nat) :
    (infixStep inner power).Takes fun taken step => Built taken [.expression step.2] := by
  refine (Advances.satisfy _).skip fun _ _ => (hinner _).bind fun _ _ hright => .pure ?_
  exact (hright.before _).behind _

theorem built_operation (power : Nat) :
    (operation inner power).Takes fun taken value => Built taken [.expression value] := by
  refine takes_here fun start => ?_
  refine (Takes.orElse (built_unary hinner) (built_chain hinner)).bind fun taken first hfirst => ?_
  have hsteps := built_steps (fun span left step => .binary span step.1 left step.2)
    (built_infixStep hinner power) (fun _ _ _ => rfl) (fun _ _ _ => rfl) start
  refine hsteps.bind fun more steps hall => .pure ?_
  rw [List.append_nil]
  refine ⟨List.append_ne_nil_of_left_ne_nil hfirst.ne_nil _, fun hstart => ?_⟩
  refine hall taken first hfirst (Eq.trans ?_ hstart)
  rw [cover, cover, List.head?_append_of_ne_nil _ hfirst.ne_nil]

end Expressions

theorem built_expression : expression.Takes fun taken value => Built taken [.expression value] :=
  .fix (fun _ hinner power => built_operation hinner power) 0

theorem laid_expression : expression.Takes fun taken value => Laid taken [.expression value] :=
  built_expression.imp fun _ _ hvalue => hvalue.laid

theorem built_library : library.Takes fun taken value => Built taken [.statement value] := by
  intro input value rest hresult
  have hnamed : Takes (do keyword .library; text) fun taken _ => Built taken [] :=
    (takes_keyword _).bind fun _ _ hne => (Advances.satisfy _).imp fun _ _ _ =>
      ⟨List.append_ne_nil_of_left_ne_nil hne _, .nil _⟩
  rw [result_library, Option.bind_eq_some_iff] at hresult
  obtain ⟨⟨⟨span, path⟩, after⟩, hread, hknown⟩ := hresult
  split at hknown
  · cases hknown
    obtain ⟨taken, rfl, hspan, hbuilt⟩ := hnamed.spanned input _ _ hread
    exact ⟨taken, rfl, Built.node hbuilt hspan⟩
  · cases hknown

theorem built_print : print.Takes fun taken value => Built taken [.statement value] := by
  have hmark : ((symbol .comma).orElse (symbol .semicolon)).Advances :=
    Takes.orElse (advances_symbol _) (advances_symbol _)
  have hinside : Takes (do
      keyword .print
      separatedByTrailing expression ((symbol .comma).orElse (symbol .semicolon)))
        fun taken values => Built taken (values.map .expression) :=
    (takes_keyword _).bind fun _ _ hne => (laid_separatedByTrailing laid_expression hmark).imp
      fun _ _ hvalues => ⟨List.append_ne_nil_of_left_ne_nil hne _, hvalues.behind _⟩
  exact built_spanned hinside fun span values => ⟨_, rfl, rfl, rfl⟩

theorem built_returning : returning.Takes fun taken value => Built taken [.statement value] := by
  have hvalue : expression.optional.Takes fun taken value =>
      Laid taken (value.toList.map .expression) :=
    .optional laid_expression (.nil _)
  have hinside : Takes (do keyword .return; expression.optional)
      fun taken value => Built taken (value.toList.map .expression) :=
    (takes_keyword _).bind fun _ _ hne => hvalue.imp fun _ _ hlaid =>
      ⟨List.append_ne_nil_of_left_ne_nil hne _, hlaid.behind _⟩
  exact built_spanned hinside fun span value => ⟨_, rfl, rfl, rfl⟩

theorem laid_field : field.Takes fun taken value => Laid taken [.expression value.2] := by
  refine (advances_keyword _).skip fun _ _ => (Advances.satisfy _).skip fun _ _ => ?_
  refine (advances_symbol _).skip fun _ _ => laid_expression.bind fun _ _ hvalue => .pure ?_
  exact (((hvalue.before _).behind _).behind _).behind _

theorem built_component : component.Takes fun taken value => Built taken [.statement value] := by
  have hbase : (optional (do keyword .extends; text)).Advances :=
    .optional ((advances_keyword _).bind fun _ => .satisfy _)
  have hfield : Takes (do
      let declared ← field
      let _ ← separator
      return declared) fun taken value => Laid taken [.expression value.2] :=
    laid_field.bind fun _ _ hvalue => advances_separator.skip fun _ _ => .pure (hvalue.before _)
  have hinside : Takes (do
      keyword .component
      let name ← text
      let base ← optional (do keyword .extends; text)
      let _ ← separator
      let fields ← many (do
        let declared ← field
        let _ ← separator
        return declared)
      keyword .end
      keyword .component
      return (name, base, fields)) fun taken read =>
        Built taken (read.2.2.map fun field => .expression field.2) := by
    refine (takes_keyword _).bind fun front _ hne => (Advances.satisfy _).skip fun _ _ => ?_
    refine hbase.skip fun _ _ => advances_separator.skip fun _ _ => ?_
    refine (laid_many hfield).bind fun _ fields hfields => (advances_keyword _).skip fun _ _ => ?_
    refine (advances_keyword _).skip fun _ _ => .pure ?_
    exact ⟨List.append_ne_nil_of_left_ne_nil hne _,
      ((((hfields.before _).behind _).behind _).behind _).behind _⟩
  exact built_spanned hinside fun span read => ⟨_, rfl, rfl, rfl⟩

theorem laid_path : Takes (many (do symbol .dot; spanned identifier)) fun more path =>
    ∀ taken object, Built taken [.expression object] → object.span = cover taken →
      ∀ front, front <+: path → Laid (taken ++ more) [.expression (front.foldl
        (fun object step => .member ⟨object.span.start, step.1.stop⟩ object step.2) object)] := by
  have hname : identifier.Takes fun taken _ => taken ≠ [] :=
    .satisfy fun _ _ _ => List.cons_ne_nil _ _
  have hstep : Takes (do symbol .dot; spanned identifier) fun taken step =>
      taken ≠ [] ∧ (cover taken).stop = step.1.stop := by
    refine (takes_expect _).bind fun _ _ hdot => hname.spanned.imp fun _ step hstep => ?_
    rw [cover_append hdot hstep.2, hstep.1]
    exact ⟨List.append_ne_nil_of_left_ne_nil hdot _, rfl⟩
  refine .many hstep ?_ ?_
  · rintro taken object hobject - front hfront
    rw [List.prefix_nil.mp hfront]
    exact hobject.laid.before _
  · rintro here step more path ⟨hne, hstop⟩ ih taken object hobject hplace front hfront
    cases front with
    | nil => exact hobject.laid.before _
    | cons first rest =>
        obtain ⟨rfl, hrest⟩ := List.cons_prefix_cons.mp hfront
        rw [← List.append_assoc]
        have hcover : Expression.span (.member ⟨object.span.start, first.1.stop⟩ object first.2) =
            cover (taken ++ here) := by
          rw [cover_append hobject.ne_nil hne, hstop, hplace]
          rfl
        have hmember : Built (taken ++ here) [.expression
            (.member ⟨object.span.start, first.1.stop⟩ object first.2)] :=
          Built.node (hobject.before _) hcover
        exact ih _ _ hmember hcover rest hrest

theorem built_assignment :
    assignment.Takes fun taken value => Built taken [.statement value] := by
  have hname : identifier.Takes fun taken _ => Built taken [] :=
    .satisfy fun _ _ _ => ⟨List.cons_ne_nil _ _, .nil _⟩
  have hinside : Takes (do
      let root ← spanned identifier
      let path ← many (do symbol .dot; spanned identifier)
      symbol .equal
      let value ← expression
      return (root, path, value)) fun taken read => ∀ front, front <+: read.2.1 →
        Built taken [.expression (memberPath read.1 front), .expression read.2.2] := by
    refine hname.spanned.bind fun taken root hroot => laid_path.bind fun more path hpath => ?_
    refine (advances_symbol _).skip fun _ _ => laid_expression.bind fun _ value hvalue => .pure ?_
    intro front hfront
    have hobject : Built taken [.expression (.variable root.1 root.2)] :=
      Built.node hroot.2 hroot.1
    have hpath := hpath taken _ hobject hroot.1 front hfront
    rw [← List.append_assoc]
    exact ⟨List.append_ne_nil_of_left_ne_nil
      (List.append_ne_nil_of_left_ne_nil hobject.ne_nil _) _,
      hpath.append ((hvalue.before _).behind _)⟩
  refine hinside.spanned.bind fun taken read hread => ?_
  obtain ⟨span, root, path, value⟩ := read
  obtain ⟨hspan, hparts⟩ := hread
  dsimp only at hspan hparts ⊢
  split
  · refine .pure ?_
    rw [List.append_nil]
    exact Built.node (hparts [] List.nil_prefix).tail hspan
  · next last hlast =>
      refine .pure ?_
      rw [List.append_nil]
      exact Built.node (hparts _ (List.dropLast_prefix path)) hspan

section Nested

variable {inner : Parser Statement}
  (hinner : inner.Takes fun taken value => Built taken [.statement value])
include hinner

theorem laid_block :
    (block inner).Takes fun taken body => Laid taken (body.map .statement) := by
  have hline : Takes (do
      let read ← inner
      let _ ← separator
      return read) fun taken value => Laid taken [.statement value] :=
    hinner.bind fun _ _ hvalue => advances_separator.skip fun _ _ => .pure (hvalue.laid.before _)
  exact advances_separator.skip fun _ _ => (laid_many hline).imp fun _ _ hbody => hbody.behind _

theorem laid_branch : (branch inner).Takes fun taken read => Laid taken (branchParts read) := by
  refine laid_expression.bind fun _ condition hcondition => ?_
  refine (advances_keyword .then).optional.skip fun _ _ => ?_
  refine (laid_block hinner).bind fun _ body hbody => .pure ?_
  exact hcondition.append ((hbody.before _).behind _)

theorem built_conditional :
    (conditional inner).Takes fun taken value => Built taken [.statement value] := by
  have hfurther : ((keyword .elseIf).orElse (do keyword .else; keyword .if)).Advances :=
    Takes.orElse (advances_keyword _) ((advances_keyword _).bind fun _ => advances_keyword _)
  have hothers : Takes (many (do
      (keyword .elseIf).orElse (do keyword .else; keyword .if)
      branch inner)) fun taken branches => Laid taken (branches.flatMap branchParts) := by
    have hother : Takes (do
        (keyword .elseIf).orElse (do keyword .else; keyword .if)
        branch inner) fun taken read => Laid taken (branchParts read) :=
      hfurther.skip fun _ _ => (laid_branch hinner).imp fun _ _ hread => hread.behind _
    exact .many hother (.nil _) fun _ _ _ _ hread hreads => hread.append hreads
  have hotherwise : Takes (optional (do keyword .else; block inner))
      fun taken otherwise => Laid taken ((otherwise.getD []).map .statement) :=
    .optional ((advances_keyword _).skip fun _ _ =>
      (laid_block hinner).imp fun _ _ hbody => hbody.behind _) (.nil _)
  have hclosing : (orElse (do keyword .end; keyword .if) (keyword .endIf)).Advances :=
    Takes.orElse ((advances_keyword _).bind fun _ => advances_keyword _) (advances_keyword _)
  have hinside : Takes (do
      keyword .if
      let first ← branch inner
      let others ← many (do
        (keyword .elseIf).orElse (do keyword .else; keyword .if)
        branch inner)
      let otherwise ← optional (do keyword .else; block inner)
      orElse (do keyword .end; keyword .if) (keyword .endIf)
      return (first :: others, otherwise)) fun taken read => Built taken
        (read.1.flatMap branchParts ++ (read.2.getD []).map .statement) := by
    refine (takes_keyword _).bind fun _ _ hne => (laid_branch hinner).bind fun _ first hfirst => ?_
    refine hothers.bind fun _ others hothers => hotherwise.bind fun _ otherwise hotherwise => ?_
    refine hclosing.skip fun _ _ => .pure ⟨List.append_ne_nil_of_left_ne_nil hne _, ?_⟩
    rw [List.flatMap_cons, List.append_assoc]
    exact (hfirst.append (hothers.append (hotherwise.before _))).behind _
  exact built_spanned hinside fun span read => ⟨_, rfl, rfl, rfl⟩

theorem built_function :
    (function inner).Takes fun taken value => Built taken [.statement value] := by
  have hheader : Takes (orElse (do keyword .function; return false) (do keyword .sub; return true))
      fun taken _ => taken ≠ [] :=
    .orElse ((takes_keyword _).bind fun _ _ hne => .pure (by rwa [List.append_nil]))
      ((takes_keyword _).bind fun _ _ hne => .pure (by rwa [List.append_nil]))
  have hclosing : ((keyword .function).orElse (keyword .sub)).Advances :=
    Takes.orElse (advances_keyword _) (advances_keyword _)
  have hinside : Takes (do
      let isSub ← orElse (do keyword .function; return false) (do keyword .sub; return true)
      let name ← identifier
      let names ← parameters
      let _ ← typeAnnotation.optional
      let body ← block inner
      keyword .end
      (keyword .function).orElse (keyword .sub)
      return (isSub, name, names, body)) fun taken read =>
        Built taken (read.2.2.2.map .statement) := by
    refine hheader.bind fun _ _ hne => (Advances.satisfy _).skip fun _ _ => ?_
    refine advances_parameters.skip fun _ _ => advances_typeAnnotation.optional.skip fun _ _ => ?_
    refine (laid_block hinner).bind fun _ body hbody => (advances_keyword _).skip fun _ _ => ?_
    refine hclosing.skip fun _ _ => .pure ⟨List.append_ne_nil_of_left_ne_nil hne _, ?_⟩
    exact ((((hbody.before _).behind _).behind _).behind _).behind _
  exact built_spanned hinside fun span read => ⟨_, rfl, rfl, rfl⟩

theorem built_statementOf :
    (statementOf inner).Takes fun taken value => Built taken [.statement value] := by
  refine .choice ?_
  simp only [List.forall_mem_cons, List.not_mem_nil, false_implies, implies_true, and_true]
  exact ⟨built_library, built_print, built_conditional hinner, built_function hinner,
    built_returning, built_component, built_assignment,
    built_spanned built_expression fun span value => ⟨_, rfl, rfl, rfl⟩⟩

end Nested

theorem built_statement : statement.Takes fun taken value => Built taken [.statement value] :=
  .fix (fun _ hinner _ => built_statementOf (hinner ())) ()

theorem laid_program : program.Takes fun taken body => Laid taken (body.map .statement) := by
  have hatEnd : atEnd.Advances := by
    rintro (_ | ⟨lexeme, rest⟩) _ _ ⟨⟩
    exact ⟨[], rfl, trivial⟩
  have hending : (separator.orElse (do atEnd; return [])).Advances :=
    Takes.orElse advances_separator (hatEnd.bind fun _ => .pure _)
  have hline : Takes (do
      let read ← statement
      let _ ← separator.orElse (do atEnd; return [])
      return read) fun taken value => Laid taken [.statement value] :=
    built_statement.bind fun _ _ hvalue => hending.skip fun _ _ => .pure (hvalue.laid.before _)
  refine advances_separator.optional.skip fun _ _ => ?_
  refine (laid_many hline).bind fun _ body hbody => hatEnd.skip fun _ _ => .pure ?_
  exact (hbody.before _).behind _

/-- In a program that was read from tokens in order, every statement and every expression begins and
ends with a token, and holds its parts, which follow each other in the order of the source text; so
do the statements of the program. -/
theorem parse_nested {lexemes : List Lexeme} {statements : List Statement}
    (horder : InOrder lexemes) (hparse : parse lexemes = .ok statements) :
    (∀ statement ∈ statements, (SyntaxNode.statement statement).Nested lexemes) ∧
      statements.Pairwise fun left right => left.span.Precedes right.span := by
  obtain ⟨rest, hresult⟩ := exists_of_parse hparse
  obtain ⟨taken, rfl, hlaid⟩ := laid_program lexemes statements rest hresult
  obtain ⟨hnested, hpairwise⟩ := hlaid horder.left
  rw [List.pairwise_map] at hpairwise
  refine ⟨fun statement hstatement => ?_, hpairwise⟩
  exact (hnested _ (List.mem_map_of_mem hstatement)).mono (List.subset_append_left _ _)

/-- The tokens of `if x then`, `a.b.c = (d)(1)`, `end if` on three lines. -/
def bracketedLines : List Lexeme :=
  [⟨.keyword .if, ⟨0, 2⟩⟩, ⟨.identifier "x", ⟨3, 4⟩⟩, ⟨.keyword .then, ⟨5, 9⟩⟩, ⟨.newline, ⟨9, 10⟩⟩,
    ⟨.identifier "a", ⟨10, 11⟩⟩, ⟨.symbol .dot, ⟨11, 12⟩⟩, ⟨.identifier "b", ⟨12, 13⟩⟩,
    ⟨.symbol .dot, ⟨13, 14⟩⟩, ⟨.identifier "c", ⟨14, 15⟩⟩, ⟨.symbol .equal, ⟨16, 17⟩⟩,
    ⟨.symbol .roundOpen, ⟨18, 19⟩⟩, ⟨.identifier "d", ⟨19, 20⟩⟩, ⟨.symbol .roundClose, ⟨20, 21⟩⟩,
    ⟨.symbol .roundOpen, ⟨21, 22⟩⟩, ⟨.integer 1, ⟨22, 23⟩⟩, ⟨.symbol .roundClose, ⟨23, 24⟩⟩,
    ⟨.newline, ⟨24, 25⟩⟩, ⟨.keyword .end, ⟨25, 28⟩⟩, ⟨.keyword .if, ⟨29, 31⟩⟩]

/-- The call begins with the bracket before its callee, whose own place is inside the brackets. -/
theorem parse_nested_bracketedLines :
    let tree : Statement := .conditional ⟨0, 31⟩ [(.variable ⟨3, 4⟩ "x",
      [.assignMember ⟨10, 24⟩ (.member ⟨10, 13⟩ (.variable ⟨10, 11⟩ "a") "b") "c"
        (.call ⟨18, 24⟩ (.variable ⟨19, 20⟩ "d") [.literal ⟨22, 23⟩ (.integer 1)])])] none
    InOrder bracketedLines ∧ parse bracketedLines = .ok [tree] ∧
      (SyntaxNode.statement tree).Nested bracketedLines := by
  intro tree
  have horder : InOrder bracketedLines :=
    ⟨by decide, by unfold Span.Precedes; decide⟩
  have hparse : parse bracketedLines = .ok [tree] := by
    with_unfolding_all rfl
  exact ⟨horder, hparse, (parse_nested horder hparse).1 tree (List.mem_singleton_self tree)⟩

end BrightScript.Grammar
