import BrightScript.Proofs.Syntax.Lookahead

open BrightScript.Parser

namespace BrightScript.Grammar

/-- A token that ends a statement. -/
def separates (token : Token) : Prop := token = .newline ∨ token = .symbol .colon

/-- A token at which the statements of a block end. -/
def endsBlock : Token → Bool
  | .keyword word => word ∈ [.end, .else, .elseIf, .endIf]
  | _ => false

theorem not_startsStatement_of_endsBlock {token : Token} (htoken : endsBlock token = true) :
    startsStatement token = false := by
  cases token with
  | keyword word => cases word <;> first | rfl | cases htoken
  | _ => cases htoken

theorem continues_iff {token : Token} : continues token ↔ ¬separates token := not_or.symm

theorem ends_of_separates {rest : List Lexeme} (hrest : Next separates rest) : Ends 0 rest := by
  refine hrest.imp ?_
  rintro _ (rfl | rfl) <;> simp [infixOperator?]

section Separators

variable {more : List Lexeme}

theorem separates_append (hmore : Next (· = .newline) more) {rest : List Lexeme}
    (hrest : Next separates rest) : Next separates (rest ++ more) :=
  hrest.append (hmore.imp fun _ => .inl)

/-- A line break or a colon. -/
def mark : Parser Unit := (expect .newline).orElse (symbol .colon)

theorem extends_mark (after : List Lexeme → Prop) :
    Extends more mark mark (Starts separates) after := by
  refine (Extends.expect_starts _ _).orElse_starts (Extends.expect_starts _ _) fun input hinput =>
    refuses_expect (hinput.imp ?_)
  rintro _ rfl ⟨⟩

theorem takes_mark : mark.Takes fun taken _ => taken ≠ [] :=
  .orElse (takes_expect _) (takes_expect _)

theorem next_of_refuses_mark {input : List Lexeme}
    (hrefuses : mark.Refuses input) : Next continues input := by
  cases input with
  | nil => exact .nil
  | cons lexeme tail =>
      refine .cons (continues_iff.mpr ?_)
      obtain ⟨token, span⟩ := lexeme
      rintro (heq | heq)
      · obtain rfl : token = _ := heq
        exact not_refuses_of_result (Reads.orElse reads_expect _).choose_spec.1 hrefuses
      · obtain rfl : token = _ := heq
        have hbreak : (expect .newline).Refuses (⟨.symbol .colon, span⟩ :: tail) :=
          refuses_expect (.cons (by rintro ⟨⟩))
        exact not_refuses_of_result (hbreak.orElse reads_expect).choose_spec.1 hrefuses

theorem refuses_mark {input : List Lexeme} (hnext : Next continues input) :
    mark.Refuses input :=
  Refuses.orElseRefuses (refuses_expect (hnext.imp fun _ => And.left))
    (refuses_expect (hnext.imp fun _ => And.right))

theorem extends_separator {behind : List Lexeme → Prop} (hne : ∀ rest, behind rest → rest ≠ []) :
    Extends more separator separator (Starts separates) behind := by
  have hothers : Extends more (many mark) (many mark)
      (fun rest => Starts separates rest ∨ behind rest) behind := by
    refine (extends_mark _).many takes_mark fun rest hrest hrefuses => refuses_mark ?_
    obtain ⟨lexeme, tail, rfl⟩ := List.exists_cons_of_ne_nil (hne rest hrest)
    exact .cons (next_of_refuses_mark hrefuses lexeme rfl)
  exact (extends_mark _).bind fun _ => hothers.bind fun _ => .pure _ _

end Separators

/-- How nested statements are read in front of more tokens. -/
structure ExtendsStatements (more : List Lexeme) (inner wider : Parser Statement) : Prop where
  takes : inner.Takes fun taken value => Built taken [.statement value]
  reads : Extends more inner wider (Starts (startsStatement · = true)) (Next separates)
  refuses : ∀ input, Next (startsStatement · = false) input → wider.Refuses input

section Blocks

variable {more : List Lexeme} {inner wider : Parser Statement}
  (hinner : ExtendsStatements more inner wider)
include hinner

theorem extends_block :
    Extends more (block inner) (block wider) (Starts separates) (Starts (endsBlock · = true)) := by
  have hline : Extends more (do let read ← inner; let _ ← separator; return read)
      (do let read ← wider; let _ ← separator; return read) (Starts (startsStatement · = true))
      fun rest => Starts (startsStatement · = true) rest ∨ Starts (endsBlock · = true) rest := by
    refine (hinner.reads.imp (fun _ => id) fun _ (hrest : Starts separates _) => hrest.next).bind
      fun read => (extends_separator ?_).bind fun _ => .pure _ _
    rintro rest (hrest | hrest)
    · exact hrest.ne_nil
    · exact hrest.ne_nil
  have htakes : (do let read ← inner; let _ ← separator; return read).Takes
      fun taken _ => taken ≠ [] :=
    hinner.takes.bind fun _ _ hbuilt => advances_separator.skip fun _ _ => .pure
      (List.append_ne_nil_of_left_ne_nil hbuilt.ne_nil _)
  refine (extends_separator ?_).bind fun _ => hline.many htakes fun rest hrest _ => ?_
  · rintro rest (hrest | hrest)
    · exact hrest.ne_nil
    · exact hrest.ne_nil
  · refine (hinner.refuses _ ?_).bind _
    exact (hrest.append more).next.imp fun _ => not_startsStatement_of_endsBlock

theorem extends_branch (hmore : Next (· = .newline) more) :
    Extends more (branch inner) (branch wider) (Starts (opens · = true))
      (Starts (endsBlock · = true)) := by
  have hthen : Extends more (optional (keyword .then)) (optional (keyword .then))
      (fun rest => Starts (· = .keyword .then) rest ∨ Starts separates rest)
      (Starts separates) := by
    refine (Extends.expect_starts _ _).optional fun rest hrest _ => refuses_expect ?_
    exact (hrest.append more).next.imp (by rintro _ (rfl | rfl) ⟨⟩)
  have hcondition := (extends_expression hmore).imp (fun _ => id) fun rest
      (hrest : Starts (· = .keyword .then) rest ∨ Starts separates rest) => by
    rcases hrest with hrest | hrest
    · exact ends_of_closes (hrest.next.imp (by rintro _ rfl; rfl)) 0
    · exact ends_of_separates hrest.next
  exact hcondition.bind fun _ => hthen.bind fun _ => (extends_block hinner).bind fun _ => .pure _ _

/-- What closes the branches of a conditional statement. -/
def closesConditional (token : Token) : Prop := token = .keyword .end ∨ token = .keyword .endIf

omit hinner in
theorem extends_conditionalEnd :
    Extends more (orElse (do keyword .end; keyword .if) (keyword .endIf))
      (orElse (do keyword .end; keyword .if) (keyword .endIf)) (Starts closesConditional)
      fun _ => True := by
  have hend : Extends more (do keyword .end; keyword .if) (do keyword .end; keyword .if)
      (Starts (· = .keyword .end)) fun _ => True :=
    (Extends.expect_starts _ _).bind fun _ => Extends.expect_starts _ _
  refine hend.orElse_starts (Extends.expect_starts _ _) fun input hinput =>
    Refuses.bind (refuses_expect (hinput.imp ?_)) _
  rintro _ rfl ⟨⟩

/-- What stands behind the further branches of a conditional statement. -/
def EndsBranches (rest : List Lexeme) : Prop :=
  Begins (· = .keyword .else) (Starts separates) rest ∨ Starts closesConditional rest

/-- The last branch is told from a further one by the separator behind its first word. -/
theorem extends_otherwise :
    Extends more (optional (do keyword .else; block inner))
      (optional (do keyword .else; block wider)) EndsBranches (Starts closesConditional) := by
  have hends : ∀ rest, Starts closesConditional rest → Starts (endsBlock · = true) rest :=
    fun rest hrest => hrest.starts (by rintro _ (rfl | rfl) <;> rfl)
  have hlast : Extends more (do keyword .else; block inner) (do keyword .else; block wider) _ _ :=
    (Extends.expect _ _).bind fun _ => (extends_block hinner).imp (fun _ => id) hends
  refine hlast.optional fun rest hrest _ => Refuses.bind (refuses_expect ?_) _
  exact (hrest.append more).next.imp (by rintro _ (rfl | rfl) ⟨⟩)

omit hinner in
theorem EndsBranches.starts {rest : List Lexeme} (hrest : EndsBranches rest) :
    Starts (endsBlock · = true) rest := by
  rcases hrest with hrest | hrest
  · exact hrest.starts (by rintro _ rfl; rfl)
  · exact hrest.starts (by rintro _ (rfl | rfl) <;> rfl)

omit hinner in
theorem refuses_furtherBranch {rest : List Lexeme} (hrest : EndsBranches rest)
    (more : List Lexeme) :
    ((keyword .elseIf).orElse (do keyword .else; keyword .if)).Refuses (rest ++ more) := by
  rcases hrest with @⟨⟨_, span⟩, tail, rfl, hseparates⟩ | hcloses
  · refine Refuses.orElseRefuses (refuses_expect (.cons (by rintro ⟨⟩))) ?_
    refine reads_expect.bindRefuses fun _ _ => refuses_expect ?_
    exact (hseparates.append more).next.imp (by rintro _ (rfl | rfl) ⟨⟩)
  · refine Refuses.orElseRefuses (refuses_expect ?_) (Refuses.bind (refuses_expect ?_) _)
    · exact (hcloses.append more).next.imp (by rintro _ (rfl | rfl) ⟨⟩)
    · exact (hcloses.append more).next.imp (by rintro _ (rfl | rfl) ⟨⟩)

theorem extends_furtherBranches (hmore : Next (· = .newline) more) :
    Extends more
      (many (do
        (keyword .elseIf).orElse (do keyword .else; keyword .if)
        branch inner))
      (many (do
        (keyword .elseIf).orElse (do keyword .else; keyword .if)
        branch wider))
      (Starts (endsBlock · = true)) EndsBranches := by
  have helse : ∀ after, Extends more (do keyword .else; keyword .if) (do keyword .else; keyword .if)
      (Starts (· = .keyword .else)) after :=
    fun after => (Extends.expect_starts _ _).bind fun _ => Extends.expect_starts _ _
  have hheader : ∀ after, Extends more ((keyword .elseIf).orElse (do keyword .else; keyword .if))
      ((keyword .elseIf).orElse (do keyword .else; keyword .if))
      (Starts fun token => token = .keyword .elseIf ∨ token = .keyword .else) after :=
    fun after => (Extends.expect_starts _ _).orElse_starts (helse after) fun input hinput =>
      refuses_expect (hinput.imp (by rintro _ rfl ⟨⟩))
  have htakes : ((keyword .elseIf).orElse (do keyword .else; keyword .if)).Takes
      fun taken _ => taken ≠ [] :=
    .orElse (takes_keyword _) ((takes_keyword _).bind fun _ _ hne =>
      (advances_keyword _).imp fun _ _ _ => List.append_ne_nil_of_left_ne_nil hne _)
  have hstarts : ∀ rest, (Starts (fun token => token = .keyword .elseIf ∨ token = .keyword .else)
      rest ∨ EndsBranches rest) → Starts (endsBlock · = true) rest := by
    rintro rest (hrest | hrest)
    · exact hrest.starts (by rintro _ (rfl | rfl) <;> rfl)
    · exact hrest.starts
  have hstep := (hheader _).bind fun _ =>
    (extends_branch hinner hmore).imp (fun _ => id) hstarts
  refine (hstep.many ?_ fun rest hrest _ => ?_).imp hstarts fun _ => id
  · exact htakes.bind fun _ _ hne => (laid_branch hinner.takes).imp fun _ _ _ =>
      List.append_ne_nil_of_left_ne_nil hne _
  · exact (refuses_furtherBranch hrest more).bind _

theorem extends_conditional (hmore : Next (· = .newline) more) :
    Extends more (conditional inner) (conditional wider) (Starts (· = .keyword .if))
      fun _ => True := by
  refine Extends.bind (Extends.spanned ?_) fun _ => .pure _ _
  exact (Extends.expect_starts _ _).bind fun _ => (extends_branch hinner hmore).bind fun _ =>
    (extends_furtherBranches hinner hmore).bind fun _ => (extends_otherwise hinner).bind fun _ =>
      extends_conditionalEnd.bind fun _ => .pure _ _

omit hinner in
theorem extends_annotated (after : List Lexeme → Prop) :
    Extends more typeAnnotation typeAnnotation (Starts isName) after := by
  have hword : Extends more ((keyword .function).orElse (keyword .invalid))
      ((keyword .function).orElse (keyword .invalid)) _ after :=
    (Extends.expect_starts _ _).orElse_starts (Extends.expect_starts _ _) fun input hinput =>
      refuses_expect (hinput.imp (by rintro _ rfl ⟨⟩))
  have hname : Extends more (do let _ ← identifier) (do let _ ← identifier) _ after :=
    (extends_identifier after).bind fun _ => .pure _ _
  have htype := hname.orElse_starts hword fun input hinput =>
    Refuses.bind (refuses_satisfy (hinput.imp (by rintro _ (rfl | rfl) <;> rfl))) _
  refine Extends.bind (.satisfy_starts ?_ _) fun _ => htype
  rintro (_ | _) htoken <;> first | exact ⟨_, rfl⟩ | exact absurd rfl htoken

omit hinner in
theorem refuses_annotated {input : List Lexeme}
    (hnext : Next (fun token => ∀ name, token ≠ .identifier name) input) :
    typeAnnotation.Refuses input := by
  refine Refuses.bind (refuses_satisfy (hnext.imp ?_)) _
  rintro (_ | _) htoken <;> first | rfl | exact absurd rfl (htoken _)

omit hinner in
theorem extends_optionalType {kind : Token → Prop}
    (hkind : ∀ token, kind token → ∀ name, token ≠ .identifier name) :
    Extends more typeAnnotation.optional typeAnnotation.optional
      (fun input => Starts isName input ∨ Starts kind input)
      (Starts kind) :=
  (extends_annotated _).optional fun _ hrest _ =>
    refuses_annotated ((hrest.append more).next.imp hkind)

omit hinner in
theorem extends_parameters (after : List Lexeme → Prop) :
    Extends more parameters parameters (Starts (· = .symbol .roundOpen)) after := by
  have hitem : ExtendsList more
      (do let name ← identifier; let _ ← typeAnnotation.optional; return name)
      (do let name ← identifier; let _ ← typeAnnotation.optional; return name)
      (symbol .comma) (symbol .comma) (Starts isName)
      (Starts (· = .symbol .comma)) (Starts (· = .symbol .roundClose)) := by
    have hends : ∀ rest,
        (Starts (· = .symbol .comma) rest ∨ Starts (· = .symbol .roundClose) rest) →
          Starts (fun token => token = .symbol .comma ∨ token = .symbol .roundClose) rest := by
      rintro rest (hrest | hrest)
      · exact hrest.starts fun _ => .inl
      · exact hrest.starts fun _ => .inr
    have hname : identifier.Takes fun taken _ => taken ≠ [] :=
      .satisfy fun _ _ _ => List.cons_ne_nil _ _
    constructor
    · refine (extends_identifier _).bind fun _ =>
        (Extends.imp (extends_optionalType ?_) (fun _ => id) hends).bind fun _ => .pure _ _
      rintro _ (rfl | rfl) name ⟨⟩
    · exact .expect_starts _ _
    · refine takes_step (advances_symbol _) (hname.bind fun _ _ hne => ?_) fun _ _ hne => hne
      exact advances_typeAnnotation.optional.skip fun _ _ => .pure
        (List.append_ne_nil_of_left_ne_nil hne _)
    · intro rest hrest
      refine Refuses.bind (refuses_satisfy (((hends rest hrest).append more).next.imp ?_)) _
      rintro _ (rfl | rfl) <;> rfl
    · exact fun rest hrest => Refuses.bind (refuses_expect ((hrest.append more).next.imp
        (by rintro _ rfl ⟨⟩))) _
    · exact fun rest hrest _ => refuses_expect ((hrest.append more).next.imp (by rintro _ rfl ⟨⟩))
  have hnames := hitem.separatedBy.imp (fun _ => id) fun _ => Or.inl
  exact .between (.expect_starts _ _) hnames (.expect_starts _ _)

theorem extends_function :
    Extends more (function inner) (function wider)
      (Starts fun token => token = .keyword .function ∨ token = .keyword .sub) fun _ => True := by
  have hfunction : ∀ after, Extends more (do keyword .function; return false)
      (do keyword .function; return false) (Starts (· = .keyword .function)) after :=
    fun after => (Extends.expect_starts _ _).bind fun _ => .pure _ _
  have hsub : ∀ after, Extends more (do keyword .sub; return true) (do keyword .sub; return true)
      (Starts (· = .keyword .sub)) after :=
    fun after => (Extends.expect_starts _ _).bind fun _ => .pure _ _
  have hheader : ∀ after, Extends more
      (orElse (do keyword .function; return false) (do keyword .sub; return true))
      (orElse (do keyword .function; return false) (do keyword .sub; return true))
      (Starts fun token => token = .keyword .function ∨ token = .keyword .sub) after :=
    fun after => (hfunction after).orElse_starts (hsub after) fun input hinput =>
      Refuses.bind (refuses_expect (hinput.imp (by rintro _ rfl ⟨⟩))) _
  have hclosing : Extends more ((keyword .function).orElse (keyword .sub))
      ((keyword .function).orElse (keyword .sub)) _ fun _ => True :=
    (Extends.expect_starts _ _).orElse_starts (Extends.expect_starts _ _) fun input hinput =>
      refuses_expect (hinput.imp (by rintro _ rfl ⟨⟩))
  have hbody : Extends more (block inner) (block wider) (Starts separates)
      (Starts (· = .keyword .end)) :=
    (extends_block hinner).imp (fun _ => id) fun _ hrest => hrest.starts (by rintro _ rfl; rfl)
  refine Extends.bind (Extends.spanned ?_) fun _ => .pure _ _
  refine (hheader _).bind fun _ => (extends_identifier _).bind fun _ =>
    (extends_parameters _).bind fun _ => (extends_optionalType ?_).bind fun _ => hbody.bind fun _ =>
      (Extends.expect_starts _ _).bind fun _ => hclosing.bind fun _ => .pure _ _
  rintro _ (rfl | rfl) name ⟨⟩

end Blocks

section Single

variable {more : List Lexeme}

theorem extends_library :
    Extends more library library (Starts (· = .keyword .library)) fun _ => True := by
  have hnamed : Extends more (spanned (do keyword .library; text))
      (spanned (do keyword .library; text)) (Starts (· = .keyword .library)) fun _ => True :=
    ((Extends.expect_starts _ _).bind fun _ => extends_text _).spanned
  intro input value rest hresult hrest
  rw [result_library, Option.bind_eq_some_iff] at hresult
  obtain ⟨⟨read, behind⟩, hread, hknown⟩ := hresult
  split at hknown
  · next hpath =>
      cases hknown
      obtain ⟨hinput, hwider⟩ := hnamed input read behind hread trivial
      refine ⟨hinput, ?_⟩
      rw [result_library, hwider, Option.bind_some, if_pos hpath]
  · cases hknown

theorem extends_print (hmore : Next (· = .newline) more) :
    Extends more print print (Starts (· = .keyword .print)) (Next separates) := by
  have hmark : ∀ after, Extends more ((symbol .comma).orElse (symbol .semicolon))
      ((symbol .comma).orElse (symbol .semicolon))
      (Starts fun token => token = .symbol .comma ∨ token = .symbol .semicolon) after :=
    fun after => (Extends.expect_starts _ _).orElse_starts (Extends.expect_starts _ _)
      fun input hinput => refuses_expect (hinput.imp (by rintro _ rfl ⟨⟩))
  have hnone : ∀ rest, Next separates rest →
      ((symbol .comma).orElse (symbol .semicolon)).Refuses (rest ++ more) := by
    intro rest hrest
    refine Refuses.orElseRefuses (refuses_expect ?_) (refuses_expect ?_)
    · exact (separates_append hmore hrest).imp (by rintro _ (rfl | rfl) ⟨⟩)
    · exact (separates_append hmore hrest).imp (by rintro _ (rfl | rfl) ⟨⟩)
  have hlist : ExtendsList more expression expression
      ((symbol .comma).orElse (symbol .semicolon)) ((symbol .comma).orElse (symbol .semicolon))
      (Starts (opens · = true))
      (Starts fun token => token = .symbol .comma ∨ token = .symbol .semicolon)
      (Next separates) := by
    constructor
    · refine (extends_expression hmore).imp (fun _ => id) ?_
      rintro rest (hrest | hrest)
      · exact hrest.next.imp (by rintro _ (rfl | rfl) <;> simp [infixOperator?])
      · exact ends_of_separates hrest
    · exact hmark _
    · exact takes_step (Takes.orElse (advances_symbol _) (advances_symbol _)) built_expression
        fun _ _ hbuilt => hbuilt.ne_nil
    · rintro rest (hrest | hrest)
      · exact refuses_expression ((hrest.append more).next.imp (by rintro _ (rfl | rfl) <;> rfl)) 0
      · exact refuses_expression ((separates_append hmore hrest).imp
          (by rintro _ (rfl | rfl) <;> rfl)) 0
    · exact fun rest hrest => (hnone rest hrest).bind _
    · exact fun rest hrest _ => hnone rest hrest
  refine Extends.bind (Extends.spanned ?_) fun _ => .pure _ _
  exact (Extends.expect_starts _ _).bind fun _ => hlist.separatedByTrailing

theorem extends_returning (hmore : Next (· = .newline) more) :
    Extends more returning returning (Starts (· = .keyword .return)) (Next separates) := by
  have hvalue := (extends_expression hmore).imp (fun _ => id) fun _ => ends_of_separates
  refine Extends.bind (Extends.spanned ?_) fun _ => .pure _ _
  refine (Extends.expect_starts _ _).bind fun _ => hvalue.optional fun rest hrest _ => ?_
  exact refuses_expression ((separates_append hmore hrest).imp (by rintro _ (rfl | rfl) <;> rfl)) 0

theorem extends_fields (hmore : Next (· = .newline) more) :
    Extends more (many (do let declared ← field; let _ ← separator; return declared))
      (many (do let declared ← field; let _ ← separator; return declared))
      (fun rest => Starts (· = .keyword .field) rest ∨ Starts (· = .keyword .end) rest)
      (Starts (· = .keyword .end)) := by
  have hfield : Extends more field field (Starts (· = .keyword .field)) (Next separates) :=
    (Extends.expect_starts _ _).bind fun _ => (extends_identifier _).bind fun _ =>
      (Extends.expect_starts _ _).bind fun _ => (extends_expression hmore |>.imp (fun _ => id)
        fun _ => ends_of_separates).bind fun _ => .pure _ _
  have htakes : field.Takes fun taken _ => taken ≠ [] :=
    (takes_keyword _).bind fun _ _ hne => (Advances.satisfy _).skip fun _ _ =>
      (advances_symbol _).skip fun _ _ => laid_expression.bind fun _ _ _ => .pure
        (List.append_ne_nil_of_left_ne_nil hne _)
  have hline : Extends more (do let declared ← field; let _ ← separator; return declared)
      (do let declared ← field; let _ ← separator; return declared) (Starts (· = .keyword .field))
      fun rest => Starts (· = .keyword .field) rest ∨ Starts (· = .keyword .end) rest := by
    refine (hfield.imp (fun _ => id) fun _ (hrest : Starts separates _) => hrest.next).bind
      fun _ => (extends_separator ?_).bind fun _ => .pure _ _
    rintro rest (hrest | hrest)
    · exact hrest.ne_nil
    · exact hrest.ne_nil
  refine hline.many ?_ fun rest hrest _ => Refuses.bind (Refuses.bind (refuses_expect ?_) _) _
  · exact htakes.bind fun _ _ hne => advances_separator.skip fun _ _ => .pure
      (List.append_ne_nil_of_left_ne_nil hne _)
  · exact (hrest.append more).next.imp (by rintro _ rfl ⟨⟩)

theorem extends_component (hmore : Next (· = .newline) more) :
    Extends more component component (Starts (· = .keyword .component)) fun _ => True := by
  have hbase : Extends more (optional (do keyword .extends; text))
      (optional (do keyword .extends; text))
      (fun rest => Starts (· = .keyword .extends) rest ∨ Starts separates rest)
      (Starts separates) := by
    refine ((Extends.expect_starts _ _).bind fun _ => extends_text _).optional fun rest hrest _ =>
      Refuses.bind (refuses_expect ?_) _
    exact (hrest.append more).next.imp (by rintro _ (rfl | rfl) ⟨⟩)
  refine Extends.bind (Extends.spanned ?_) fun _ => .pure _ _
  refine (Extends.expect_starts _ _).bind fun _ => (extends_text _).bind fun _ =>
    hbase.bind fun _ => (extends_separator ?_).bind fun _ => (extends_fields hmore).bind fun _ =>
      (Extends.expect_starts _ _).bind fun _ => (Extends.expect_starts _ _).bind fun _ => .pure _ _
  rintro rest (hrest | hrest)
  · exact hrest.ne_nil
  · exact hrest.ne_nil

theorem refuses_pathStep_append (hmore : Next (· = .newline) more) {rest : List Lexeme}
    (hrefuses : (do symbol .dot; spanned identifier : Parser (Span × String)).Refuses rest) :
    (do symbol .dot; spanned identifier : Parser (Span × String)).Refuses (rest ++ more) := by
  cases rest with
  | nil => exact Refuses.bind (refuses_expect (hmore.imp (by rintro _ rfl ⟨⟩))) _
  | cons lexeme tail =>
      obtain ⟨token, span⟩ := lexeme
      by_cases hdot : token = .symbol .dot
      · subst hdot
        obtain ⟨value, hread, -⟩ : (symbol .dot).Reads (⟨.symbol .dot, span⟩ :: tail) tail
          fun _ => True := reads_expect
        rw [refuses_bind_iff hread, Refuses, result_spanned, Option.map_eq_none_iff] at hrefuses
        refine reads_expect.bindRefuses fun _ _ => Refuses.spanned ?_
        exact Refuses.satisfy_append hrefuses fun _ => hmore.imp (by rintro _ rfl; rfl)
      · exact Refuses.bind (refuses_expect (.cons hdot)) _

theorem takes_pathStep : Takes (do symbol .dot; spanned identifier) fun taken _ =>
    ∃ span name place, taken = [⟨.symbol .dot, span⟩, ⟨.identifier name, place⟩] := by
  have hdot : (symbol .dot).Takes fun taken _ => ∃ span, taken = [⟨.symbol .dot, span⟩] := by
    refine .satisfy fun lexeme _ htest => ⟨lexeme.span, ?_⟩
    obtain ⟨token, span⟩ := lexeme
    obtain rfl : token = .symbol .dot := by_contra fun hne => by simp [hne] at htest
    rfl
  have hname : identifier.Takes fun taken _ =>
      ∃ name place, taken = [⟨.identifier name, place⟩] := by
    refine .satisfy fun lexeme _ htest => ?_
    obtain ⟨token, place⟩ := lexeme
    cases token with
    | identifier name => exact ⟨name, place, rfl⟩
    | _ => cases htest
  refine hdot.bind fun _ _ hdot => hname.spanned.imp fun _ _ hname => ?_
  obtain ⟨span, rfl⟩ := hdot
  obtain ⟨-, name, place, rfl⟩ := hname
  exact ⟨span, name, place, rfl⟩

theorem takes_pathStep_ne_nil :
    Takes (do symbol .dot; spanned identifier) fun taken _ => taken ≠ [] := by
  refine takes_pathStep.imp ?_
  rintro _ _ ⟨span, name, place, rfl⟩
  exact List.cons_ne_nil _ _

theorem extends_path (hmore : Next (· = .newline) more) :
    Extends more (many (do symbol .dot; spanned identifier))
      (many (do symbol .dot; spanned identifier)) (fun _ => True) fun _ => True := by
  have hstep : Extends more (do symbol .dot; spanned identifier)
      (do symbol .dot; spanned identifier) (fun _ => True) fun _ => True ∨ True :=
    (Extends.expect _ _).imp (fun _ _ => trivial) (fun _ => id) |>.bind fun _ =>
      (extends_identifier _).spanned
  refine (hstep.many takes_pathStep_ne_nil fun _ _ => refuses_pathStep_append hmore).imp
    (fun _ _ => trivial) fun _ _ => trivial

theorem extends_assignment (hmore : Next (· = .newline) more) :
    Extends more assignment assignment (Starts isName) (Next separates) := by
  have hvalue := (extends_expression hmore).imp (fun _ => id) fun _ => ends_of_separates
  have hinside : Extends more (do
      let root ← spanned identifier
      let path ← many (do symbol .dot; spanned identifier)
      symbol .equal
      let value ← expression
      return (root, path, value)) (do
      let root ← spanned identifier
      let path ← many (do symbol .dot; spanned identifier)
      symbol .equal
      let value ← expression
      return (root, path, value)) (Starts isName)
      (Next separates) :=
    (extends_identifier _).spanned.bind fun _ => ((extends_path hmore).always _).bind fun _ =>
      (Extends.expect_starts _ _).bind fun _ => hvalue.bind fun _ => .pure _ _
  refine hinside.spanned.bind fun ⟨span, root, path, value⟩ => ?_
  dsimp only
  split
  · exact .pure _ _
  · exact .pure _ _

/-- Whether an operand can be read does not depend on the operators that may stand behind it. -/
theorem refuses_operand {inner : Nat → Parser Expression} {power : Nat} {input : List Lexeme}
    (hrefuses : (operation inner power).Refuses input) :
    ((unary inner).orElse (chain inner)).Refuses input := by
  by_contra hoperand
  obtain ⟨⟨first, middle⟩, hfirst⟩ := Option.ne_none_iff_exists'.mp hoperand
  obtain ⟨⟨steps, rest⟩, hsteps⟩ := Option.ne_none_iff_exists'.mp
    (not_refuses_many (spanned (infixStep inner power)) middle)
  have hreads : ((unary inner).orElse (chain inner)).Reads input middle fun _ => True :=
    ⟨first, hfirst, trivial⟩
  have hmany : Reads (many (spanned (infixStep inner power))) middle rest fun _ => True :=
    ⟨steps, hsteps, trivial⟩
  have hoperation : (operation inner power).Reads input rest fun _ => True :=
    reads_here.bind fun _ _ => hreads.bind fun _ _ => hmany.bind fun _ _ => .pure trivial
  exact not_refuses_of_result hoperation.choose_spec.1 hrefuses

theorem refuses_power {input : List Lexeme} (hrefuses : expression.Refuses input) (power : Nat) :
    Refuses (fix operation power) input := by
  have hoperand := refuses_operand (refuses_fix_iff.mp hrefuses)
  exact Refuses.fix (reads_here.bindRefuses fun _ _ => hoperand.bind _)

theorem reads_suffixes {inner : Nat → Parser Expression} {input rest : List Lexeme}
    {path : List (Span × String)}
    (hsteps : Steps (do symbol .dot; spanned identifier) input path rest)
    (hrest : Next (¬startsSuffix ·) rest) :
    Reads (many (spanned ((arguments inner).orElse memberAccess))) input rest fun _ => True := by
  induction hsteps with
  | nil => exact Reads.imp (Refuses.many (refuses_suffix_of_next hrest).spanned) fun _ _ => trivial
  | @cons input middle rest value values htaken hshorter _ ih =>
      obtain ⟨_, rfl, span, name, place, rfl⟩ := takes_pathStep input value middle htaken
      have harguments : (arguments inner).Refuses
          (⟨.symbol .dot, span⟩ :: ⟨.identifier name, place⟩ :: middle) :=
        Refuses.bind (Refuses.between (refuses_expect (.cons (by rintro ⟨⟩))) _ _) _
      have hsuffix := harguments.orElse (reads_memberAccess name span place)
      exact Reads.imp (hsuffix.spanned.many hshorter (ih hrest)) fun _ _ => trivial

theorem reads_path {name : String} {span place : Span} {tail behind : List Lexeme}
    {path : List (Span × String)}
    (hsteps : Steps (do symbol .dot; spanned identifier) tail path
      (⟨.symbol .equal, place⟩ :: behind))
    (hvalue : expression.Refuses behind) :
    expression.Reads (⟨.identifier name, span⟩ :: tail) (⟨.symbol .equal, place⟩ :: behind)
      fun _ => True := by
  refine Reads.fix ?_
  generalize hinner : below operation (List.length (⟨.identifier name, span⟩ :: tail)) = inner
  have hsuffixes : Reads (many (spanned ((arguments inner).orElse memberAccess))) tail
      (⟨.symbol .equal, place⟩ :: behind) fun _ => True :=
    reads_suffixes hsteps (.cons (by rintro (⟨⟨⟩⟩ | ⟨⟨⟩⟩)))
  have hchain : (chain inner).Reads (⟨.identifier name, span⟩ :: tail)
      (⟨.symbol .equal, place⟩ :: behind) fun _ => True :=
    reads_here.bind fun _ _ => (reads_atom_variable span name).bind fun _ _ =>
      hsuffixes.bind fun _ _ => .pure trivial
  have hunary : (unary inner).Refuses (⟨.identifier name, span⟩ :: tail) :=
    refuses_unary (.cons rfl)
  have hright : (inner 5).Refuses behind := hinner ▸ (refuses_power hvalue 5).below
  have hstep : (infixStep inner 0).Refuses (⟨.symbol .equal, place⟩ :: behind) := by
    have hequal : (infixOperator? (.symbol .equal)).filter (fun read => 0 ≤ read.1) =
        some (4, .equal) := rfl
    refine Reads.bindRefuses (reads_satisfy hequal) ?_
    rintro _ rfl
    exact hright.bind _
  refine reads_here.bind fun _ _ => (hunary.orElse hchain).bind fun _ _ => ?_
  exact Reads.bind (Refuses.many hstep.spanned) fun _ _ => .pure trivial

theorem refuses_value_of_assignment {name : String} {span place : Span} {tail behind : List Lexeme}
    {path : List (Span × String)}
    (hpath : Reads (many (do symbol .dot; spanned identifier)) tail
      (⟨.symbol .equal, place⟩ :: behind) (· = path))
    (hrefuses : assignment.Refuses (⟨.identifier name, span⟩ :: tail)) :
    expression.Refuses behind := by
  by_contra hvalue
  obtain ⟨⟨value, rest⟩, hvalue⟩ := Option.ne_none_iff_exists'.mp hvalue
  have hroot : identifier.Reads (⟨.identifier name, span⟩ :: tail) tail (· = name) :=
    reads_satisfy rfl
  have hread : expression.Reads behind rest (· = value) := ⟨value, hvalue, rfl⟩
  have hassignment : assignment.Reads (⟨.identifier name, span⟩ :: tail) rest fun _ => True := by
    have hequal : (symbol .equal).Reads (⟨.symbol .equal, place⟩ :: behind) behind fun _ => True :=
      reads_expect
    have hmade : ∀ read : (Span × String) × List (Span × String) × Expression,
        (pure read : Parser _).Reads rest rest fun _ => True := fun _ => .pure trivial
    have hinside := hroot.spanned.bind fun root _ => hpath.bind fun path _ =>
      hequal.bind fun _ _ => hread.bind fun value _ => hmade (root, path, value)
    refine hinside.spanned.bind ?_
    rintro ⟨span, root, path, value⟩ -
    dsimp only
    split
    · exact .pure trivial
    · exact .pure trivial
  exact not_refuses_of_result hassignment.choose_spec.1 hrefuses

/-- Where an assignment is refused and an expression is read up to the end of a statement, the
assignment is refused again. -/
theorem refuses_assignment_append (hmore : Next (· = .newline) more) {input rest : List Lexeme}
    {value : Expression} (hrefuses : assignment.Refuses input)
    (hread : (expression input).result = some (value, rest)) (hrest : Next separates rest) :
    assignment.Refuses (input ++ more) := by
  cases input with
  | nil => exact absurd (refuses_expression .nil 0) (not_refuses_of_result hread)
  | cons lexeme tail =>
      obtain ⟨token, span⟩ := lexeme
      by_cases hname : ∃ name, token = .identifier name
      · obtain ⟨name, rfl⟩ := hname
        obtain ⟨⟨path, behind⟩, hpath⟩ := Option.ne_none_iff_exists'.mp
          (not_refuses_many (do symbol .dot; spanned identifier) tail)
        obtain ⟨-, hwider⟩ := extends_path hmore tail path behind hpath trivial
        have hroot : ∀ others,
            identifier.Reads (⟨.identifier name, span⟩ :: others) others (· = name) :=
          fun others => reads_satisfy rfl
        have hmembers : Reads (many (do symbol .dot; spanned identifier)) (tail ++ more)
            (behind ++ more) fun _ => True := ⟨path, hwider, trivial⟩
        refine Refuses.bind (Refuses.spanned ((hroot _).spanned.bindRefuses fun _ _ =>
          hmembers.bindRefuses fun _ _ => Refuses.bind (refuses_expect ?_) _)) _
        refine Next.append ?_ (hmore.imp (by rintro _ rfl ⟨⟩))
        rintro ⟨_, place⟩ hbehind rfl
        obtain ⟨others, rfl⟩ := List.head?_eq_some_iff.mp hbehind
        have hvalue := refuses_value_of_assignment ⟨path, hpath, rfl⟩ hrefuses
        have hwhole : expression.Reads (⟨.identifier name, span⟩ :: tail)
            (⟨.symbol .equal, place⟩ :: others) fun _ => True :=
          reads_path (steps_of_many takes_pathStep_ne_nil hpath).1 hvalue
        obtain ⟨_, hresult, -⟩ := hwhole
        rw [hread] at hresult
        cases hresult
        rcases hrest _ rfl with ⟨⟨⟩⟩ | ⟨⟨⟩⟩
      · exact refuses_assignment (.cons fun name heq => hname ⟨name, heq⟩)

end Single

section Statements

variable {more : List Lexeme} {inner wider : Parser Statement}

theorem extends_assignment_or_expression (hmore : Next (· = .newline) more) :
    Extends more
      (assignment.orElse do
        let (span, value) ← spanned expression
        return .expression span value)
      (assignment.orElse do
        let (span, value) ← spanned expression
        return .expression span value)
      (Starts (opens · = true)) (Next separates) := by
  have hexpression : Extends more
      (do let (span, value) ← spanned expression; return Statement.expression span value)
      (do let (span, value) ← spanned expression; return Statement.expression span value)
      (Starts (opens · = true)) (Next separates) :=
    ((extends_expression hmore).imp (fun _ => id) fun _ => ends_of_separates).spanned.bind
      fun _ => .pure _ _
  refine ((extends_assignment hmore).orElse_of_refuses hexpression ?_).imp ?_ fun _ => id
  · intro input statement rest hrefuses hread hrest
    rw [result_bind, result_spanned] at hread
    cases hvalue : (expression input).result with
    | none =>
        rw [hvalue] at hread
        cases hread
    | some read =>
        rw [hvalue] at hread
        cases hread
        exact refuses_assignment_append hmore hrefuses hvalue hrest
  · rintro input (hinput | hinput)
    · exact hinput.starts (by rintro _ ⟨name, rfl⟩; rfl)
    · exact hinput

theorem extends_statementOf (hmore : Next (· = .newline) more)
    (hinner : ExtendsStatements more inner wider) :
    Extends more (statementOf inner) (statementOf wider) (Starts (startsStatement · = true))
      (Next separates) := by
  have hcomponent := ((extends_component hmore).always _).orElse_starts
    (extends_assignment_or_expression hmore) fun input hinput => refuses_component (hinput.imp ?_)
  have hreturning := (extends_returning hmore).orElse_starts hcomponent fun input hinput =>
    refuses_returning (hinput.imp ?_)
  have hfunction := ((extends_function hinner).always _).orElse_starts hreturning
    fun input hinput => refuses_function (hinput.imp ?_) (hinput.imp ?_)
  have hconditional := ((extends_conditional hinner hmore).always _).orElse_starts hfunction
    fun input hinput => refuses_conditional (hinput.imp ?_)
  have hprint := (extends_print hmore).orElse_starts hconditional fun input hinput =>
    refuses_print (hinput.imp ?_)
  have hlibrary := (extends_library.always _).orElse_starts hprint fun input hinput =>
    refuses_library (hinput.imp ?_)
  · refine hlibrary.imp (fun input hinput => hinput.starts ?_) fun _ => id
    rintro token (rfl | rfl | rfl | (rfl | rfl) | rfl | rfl | htoken)
    case inr.inr.inr.inr.inr.inr => exact startsStatement_of_opens htoken
    all_goals rfl
  all_goals
    rintro _ htoken rfl
    simp [opens, startsOperand, unaryOperator?] at htoken

theorem built_statement_fix (index : Unit) :
    Takes (fix (fun inner (_ : Unit) => statementOf (inner ())) index)
      fun taken value => Built taken [.statement value] :=
  .fix (fun _ hinner _ => built_statementOf (hinner ())) index

/-- A statement is read in the same way in front of more tokens, where it ends with a separator or
with the tokens. -/
theorem extends_statement (hmore : Next (· = .newline) more) :
    Extends more statement statement (Starts (startsStatement · = true)) (Next separates) := by
  refine @Extends.fix _ _ _ _ _ (fun _ => Next separates) ?_ ?_ ?_ ()
  · intro bound wide hinner _
    refine extends_statementOf hmore ⟨(built_statement_fix ()).below, hinner (), ?_⟩
    exact fun _ hnext => Refuses.below (Refuses.fix (refuses_statementOf hnext))
  · exact fun _ _ _ _ => id
  · exact fun index => (built_statement_fix index).imp fun _ _ _ => trivial

end Statements

end BrightScript.Grammar
