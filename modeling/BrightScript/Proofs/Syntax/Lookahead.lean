import BrightScript.Proofs.Syntax.Extension
import BrightScript.Proofs.Syntax.Places

open BrightScript.Parser

namespace BrightScript.Grammar

/-- Line breaks, possibly none, and then something. -/
inductive Breaks (behind : List Lexeme → Prop) : List Lexeme → Prop
  | stop {input : List Lexeme} (hbehind : behind input) : Breaks behind input
  | skip {span : Span} {tail : List Lexeme} (htail : Breaks behind tail) :
      Breaks behind (⟨.newline, span⟩ :: tail)

namespace Breaks

variable {kind : Token → Prop} {input : List Lexeme}

theorem starts (hbreaks : Breaks (Starts kind) input) :
    Starts (fun token => token = .newline ∨ kind token) input := by
  cases hbreaks with
  | stop hstarts => exact hstarts.starts fun _ => .inr
  | skip => exact ⟨.inl rfl, trivial⟩

theorem append (hbreaks : Breaks (Starts kind) input) (more : List Lexeme) :
    Breaks (Starts kind) (input ++ more) := by
  induction hbreaks with
  | stop hstarts => exact .stop (hstarts.append more)
  | skip _ ih => exact .skip ih

theorem reads (hbreaks : Breaks (Starts kind) input)
    (hkind : ∀ token, kind token → token ≠ .newline) :
    ∃ rest, newlines.Reads input rest (fun _ => True) ∧ Starts kind rest := by
  induction hbreaks with
  | stop hstarts => exact ⟨_, reads_newlines (hstarts.next.imp hkind), hstarts⟩
  | skip _ ih =>
      obtain ⟨rest, hreads, hstarts⟩ := ih
      refine ⟨rest, Reads.imp (Reads.many reads_expect ?_ hreads) fun _ _ => trivial, hstarts⟩
      rw [List.length_cons]
      exact Nat.lt_succ_self _

end Breaks

section Breaking

variable {more : List Lexeme} {behind : List Lexeme → Prop}

theorem extends_newlines (hne : ∀ rest, behind rest → rest ≠ []) :
    Extends more newlines newlines (Breaks behind) behind := by
  have hstep : Extends more (expect .newline) (expect .newline) (Breaks behind)
      fun rest => Breaks behind rest ∨ behind rest := by
    refine (Extends.expect _ _).imp ?_ fun _ => id
    rintro (_ | ⟨⟨_, span⟩, tail⟩) ⟨rfl, hbehind⟩
    exact .skip (hbehind.elim id .stop)
  refine (hstep.many (takes_expect _) fun rest hrest hrefuses => ?_).imp ?_ fun _ => id
  · exact hrefuses.satisfy_append fun hempty => absurd hempty (hne rest hrest)
  · exact fun input hinput => hinput.elim id .stop

end Breaking

section Words

variable {more : List Lexeme}

def isName (token : Token) : Prop := ∃ name, token = .identifier name

def isText (token : Token) : Prop := ∃ value, token = .text value

theorem extends_identifier (after : List Lexeme → Prop) :
    Extends more identifier identifier (Starts isName) after := by
  refine .satisfy_starts ?_ after
  rintro (_ | _) htoken <;> first | exact ⟨_, rfl⟩ | exact absurd rfl htoken

theorem extends_text (after : List Lexeme → Prop) :
    Extends more text text (Starts isText) after := by
  refine .satisfy_starts ?_ after
  rintro (_ | _) htoken <;> first | exact ⟨_, rfl⟩ | exact absurd rfl htoken

end Words

/-- What stands behind an expression does not belong to it: it is no suffix, and no operator with an
operand behind it. -/
def Follow (inner : Nat → Parser Expression) (rest : List Lexeme) : Prop :=
  ∀ lexeme tail, rest = lexeme :: tail →
    lexeme.token ≠ .symbol .roundOpen ∧ lexeme.token ≠ .symbol .dot ∧
      ∀ strength operator, infixOperator? lexeme.token = some (strength, operator) →
        ¬(inner (strength + 1)).Refuses tail

theorem follow_of_ends {inner : Nat → Parser Expression} {rest : List Lexeme}
    (hends : Grammar.Ends 0 rest) : Follow inner rest := by
  rintro lexeme tail rfl
  obtain ⟨hround, hdot, hless⟩ := hends lexeme rfl
  refine ⟨hround, hdot, fun strength operator hoperation => ?_⟩
  exact absurd (hless strength operator hoperation) (Nat.not_lt_zero _)

theorem follow_of_closes {inner : Nat → Parser Expression} {rest : List Lexeme}
    (hrest : Next (closes · = true) rest) : Follow inner rest :=
  follow_of_ends (ends_of_closes hrest 0)

/-- How nested expressions are read in front of more tokens. -/
structure ExtendsExpressions (more : List Lexeme) (inner wider : Nat → Parser Expression) :
    Prop where
  takes : ∀ power, (inner power).Takes fun taken value => Built taken [.expression value]
  reads : ∀ power, Extends more (inner power) (wider power) (Starts (opens · = true)) (Follow inner)
  refuses : ∀ power input, Next (opens · = false) input → (wider power).Refuses input

section Expressions

variable {more : List Lexeme} {inner wider : Nat → Parser Expression}
  (hinner : ExtendsExpressions more inner wider)
include hinner

theorem ExtendsExpressions.refuses_append {kind : Token → Prop} {behind : List Lexeme → Prop}
    {rest : List Lexeme} (hrest : Begins kind behind rest)
    (hkind : ∀ token, kind token → opens token = false) (power : Nat) :
    (wider power).Refuses (rest ++ more) :=
  hinner.refuses power _ ((hrest.append more).next.imp hkind)

omit hinner in
theorem takes_step {α β : Type} {item : Parser α} {separator : Parser β}
    {good : List Lexeme → α → Prop} (hseparator : separator.Advances) (hitem : item.Takes good)
    (hne : ∀ taken value, good taken value → taken ≠ []) :
    Takes (do let _ ← separator; item) fun taken _ => taken ≠ [] :=
  hseparator.skip fun _ _ => hitem.imp fun _ _ hgood =>
    List.append_ne_nil_of_right_ne_nil _ (hne _ _ hgood)

theorem extends_items :
    ExtendsList more (inner 0) (wider 0) (do let _ ← newlines; symbol .comma; newlines)
      (do let _ ← newlines; symbol .comma; newlines) (Starts (opens · = true))
      (Breaks (Starts (· = .symbol .comma))) (Breaks (Starts (· = .symbol .squareClose))) where
  readsItem := by
    refine (hinner.reads 0).imp (fun _ => id) fun rest hrest => follow_of_closes ?_
    rcases hrest with hrest | hrest
    · exact hrest.starts.next.imp (by rintro _ (rfl | rfl) <;> rfl)
    · exact hrest.starts.next.imp (by rintro _ (rfl | rfl) <;> rfl)
  readsSeparator := by
    refine (extends_newlines fun _ => Begins.ne_nil).bind fun _ =>
      (Extends.expect_starts _ _).bind fun _ => extends_newlines ?_
    rintro rest (hrest | hrest)
    · exact hrest.ne_nil
    · exact hrest.starts.ne_nil
  takes := takes_step advances_comma (hinner.takes 0) fun _ _ hbuilt => hbuilt.ne_nil
  noItem := by
    rintro rest (hrest | hrest)
    · exact hinner.refuses_append hrest.starts (by rintro _ (rfl | rfl) <;> rfl) 0
    · exact hinner.refuses_append hrest.starts (by rintro _ (rfl | rfl) <;> rfl) 0
  noStep := by
    intro rest hrest
    obtain ⟨behind, hreads, hbehind⟩ := (hrest.append more).reads (by rintro _ rfl ⟨⟩)
    refine Refuses.bind (hreads.bindRefuses fun _ _ => Refuses.bind (refuses_expect ?_) _) _
    exact hbehind.next.imp (by rintro _ rfl ⟨⟩)
  noSeparator := by
    intro rest hrest _
    obtain ⟨behind, hreads, hbehind⟩ := (hrest.append more).reads (by rintro _ rfl ⟨⟩)
    refine hreads.bindRefuses fun _ _ => Refuses.bind (refuses_expect ?_) _
    exact hbehind.next.imp (by rintro _ rfl ⟨⟩)

omit hinner in
theorem extends_closing (mark : Symbol) :
    Extends more (do let breaks ← newlines; symbol mark; return breaks)
      (do let breaks ← newlines; symbol mark; return breaks) (Breaks (Starts (· = .symbol mark)))
      fun _ => True := by
  refine (extends_newlines fun _ => Begins.ne_nil).bind fun _ => ?_
  exact (Extends.expect_starts _ _).bind fun _ => .pure _ _

omit hinner in
theorem extends_opening (mark : Symbol) {behind : List Lexeme → Prop}
    (hne : ∀ rest, behind rest → rest ≠ []) :
    Extends more (do symbol mark; newlines) (do symbol mark; newlines)
      (Starts (· = .symbol mark)) behind :=
  (Extends.expect_starts _ _).bind fun _ => extends_newlines hne

theorem extends_array :
    Extends more (array inner) (array wider) (Starts (· = .symbol .squareOpen)) fun _ => True := by
  have hitems := (extends_items hinner).separatedByTrailing
  refine (Extends.between (extends_opening _ ?_) hitems (extends_closing _)).spanned.bind
    fun _ => .pure _ _
  rintro rest (hrest | hrest | hrest)
  · exact hrest.ne_nil
  · exact hrest.starts.ne_nil
  · exact hrest.starts.ne_nil

/-- Whether an entry of an associative array can begin with a token. -/
def startsEntry : Token → Bool
  | .identifier _ | .text _ => true
  | _ => false

omit hinner in
theorem refuses_entry {input : List Lexeme} (hnext : Next (startsEntry · = false) input) :
    (entry wider).Refuses input := by
  refine Refuses.bind (Refuses.orElseRefuses (refuses_satisfy (hnext.imp ?_))
    (refuses_satisfy (hnext.imp ?_))) _
  all_goals rintro (_ | _) htoken <;> first | rfl | cases htoken

theorem extends_entry :
    Extends more (entry inner) (entry wider) (Starts (startsEntry · = true)) (Follow inner) := by
  have hkey : ∀ after, Extends more (identifier.orElse text) (identifier.orElse text)
      (Starts (startsEntry · = true)) after := by
    intro after
    refine ((extends_identifier after).orElse_starts (extends_text after) fun input hinput =>
      refuses_satisfy (hinput.imp ?_)).imp (fun input hinput => hinput.starts ?_) fun _ => id
    · rintro _ ⟨value, rfl⟩
      rfl
    · rintro _ (⟨name, rfl⟩ | ⟨value, rfl⟩) <;> rfl
  exact (hkey _).bind fun _ => (Extends.expect_starts _ _).bind fun _ =>
    (hinner.reads 0).bind fun _ => .pure _ _

omit hinner in
theorem refuses_entrySeparator {input : List Lexeme}
    (hinput : Starts (· = .symbol .curlyClose) input) : entrySeparator.Refuses input := by
  refine Refuses.orElseRefuses (Refuses.bind (refuses_expect (hinput.next.imp ?_)) _)
    (Refuses.bind (refuses_expect (hinput.next.imp ?_)) _)
  · rintro _ rfl ⟨⟩
  · rintro _ rfl ⟨⟩

omit hinner in
/-- Line breaks in front of the closing bracket are read as a separator, none are not. -/
theorem entrySeparator_of_breaks {input : List Lexeme}
    (hinput : Breaks (Starts (· = .symbol .curlyClose)) input) :
    Starts (· = .symbol .curlyClose) input ∨
      ∃ rest, entrySeparator.Reads input rest (fun _ => True) ∧
        Starts (· = .symbol .curlyClose) rest := by
  cases hinput with
  | stop hstarts => exact .inl hstarts
  | skip htail =>
      obtain ⟨rest, hreads, hrest⟩ := htail.reads (by rintro _ rfl ⟨⟩)
      refine .inr ⟨rest, Refuses.orElse (Refuses.bind (refuses_expect (.cons ?_)) _) ?_, hrest⟩
      · rintro ⟨⟩
      · exact reads_expect.bind fun _ _ => hreads.bind fun _ _ => .pure trivial

theorem extends_entries :
    ExtendsList more (entry inner) (entry wider) entrySeparator entrySeparator
      (Starts (startsEntry · = true))
      (Starts fun token => token = .symbol .comma ∨ token = .newline)
      (Breaks (Starts (· = .symbol .curlyClose))) where
  readsItem := by
    refine (extends_entry hinner).imp (fun _ => id) fun rest hrest => follow_of_closes ?_
    rcases hrest with hrest | hrest
    · exact hrest.next.imp (by rintro _ (rfl | rfl) <;> rfl)
    · exact hrest.starts.next.imp (by rintro _ (rfl | rfl) <;> rfl)
  readsSeparator := by
    have hne : ∀ rest, Starts (startsEntry · = true) rest ∨
        Breaks (Starts (· = .symbol .curlyClose)) rest → rest ≠ [] := by
      rintro rest (hrest | hrest)
      · exact hrest.ne_nil
      · exact hrest.starts.ne_nil
    have hcomma : Extends more (do symbol .comma; newlines) (do symbol .comma; newlines) _ _ :=
      extends_opening _ hne
    have hbreaks : Extends more (many1 (expect .newline)) (many1 (expect .newline)) _ _ :=
      (Extends.expect_starts .newline _).bind fun _ =>
        (extends_newlines hne).bind fun _ => .pure _ _
    refine hcomma.orElse_starts hbreaks fun input hinput => Refuses.bind (refuses_expect ?_) _
    exact hinput.imp (by rintro _ rfl ⟨⟩)
  takes := takes_step advances_entrySeparator (built_entry hinner.takes) fun _ _ h => h.ne_nil
  noItem := by
    rintro rest (hrest | hrest)
    · exact refuses_entry ((hrest.append more).next.imp (by rintro _ (rfl | rfl) <;> rfl))
    · exact refuses_entry ((hrest.starts.append more).next.imp (by rintro _ (rfl | rfl) <;> rfl))
  noStep := by
    intro rest hrest
    rcases entrySeparator_of_breaks (hrest.append more) with hclose | ⟨behind, hreads, hclose⟩
    · exact (refuses_entrySeparator hclose).bind _
    · refine hreads.bindRefuses fun _ _ => refuses_entry (hclose.next.imp ?_)
      rintro _ rfl
      rfl
  noSeparator := by
    intro rest hrest hrefuses
    rcases entrySeparator_of_breaks hrest with hclose | ⟨behind, ⟨value, hvalue, -⟩, -⟩
    · exact refuses_entrySeparator (hclose.append more)
    · exact absurd hrefuses (not_refuses_of_result hvalue)

theorem extends_table :
    Extends more (table inner) (table wider) (Starts (· = .symbol .curlyOpen)) fun _ => True := by
  have hentries := (extends_entries hinner).separatedByTrailing
  refine (Extends.between (extends_opening _ ?_) hentries (extends_closing _)).spanned.bind
    fun _ => .pure _ _
  rintro rest (hrest | hrest | hrest)
  · exact hrest.ne_nil
  · exact hrest.ne_nil
  · exact hrest.starts.ne_nil

theorem extends_atom :
    Extends more (atom inner) (atom wider) (Starts (startsOperand · = true)) fun _ => True := by
  have hliteral : Extends more literal literal (Starts (startsOperand · = true)) fun _ => True := by
    refine .satisfy_starts (fun token htoken => ?_) _
    cases token with
    | keyword word => cases word <;> first | rfl | exact absurd rfl htoken
    | _ => first | rfl | exact absurd rfl htoken
  have hbracket : Extends more (between (symbol .roundOpen) (inner 0) (symbol .roundClose))
      (between (symbol .roundOpen) (wider 0) (symbol .roundClose))
      (Starts (· = .symbol .roundOpen)) fun _ => True := by
    refine .between (.expect_starts _ _) ((hinner.reads 0).imp (fun _ => id) fun rest hrest => ?_)
      (.expect_starts _ _)
    exact follow_of_closes (hrest.next.imp (by rintro _ rfl; rfl))
  have htable := (extends_table hinner).orElse_starts hbracket fun input hinput =>
    refuses_table (hinput.imp (by rintro _ rfl ⟨⟩))
  have harray := (extends_array hinner).orElse_starts htable fun input hinput =>
    refuses_array (hinput.imp (by rintro _ (rfl | rfl) ⟨⟩))
  have hvariable := ((extends_identifier _).spanned.bind fun read =>
    .pure (Expression.variable read.1 read.2) _).orElse_starts harray fun input hinput =>
      Refuses.bind (refuses_satisfy (hinput.imp (by rintro _ (rfl | rfl | rfl) <;> rfl))).spanned _
  have hatom := (hliteral.spanned.bind fun read =>
    .pure (Expression.literal read.1 read.2) _).orElse_starts hvariable fun input hinput =>
      Refuses.bind (refuses_satisfy (hinput.imp
        (by rintro _ (⟨_, rfl⟩ | rfl | rfl | rfl) <;> rfl))).spanned _
  refine hatom.imp (fun input hinput => hinput.starts ?_) fun _ => id
  rintro _ (htoken | ⟨_, rfl⟩ | rfl | rfl | rfl)
  · exact htoken
  all_goals rfl

/-- Whether a token is the first of a call or of a member access. -/
def startsSuffix (token : Token) : Prop := token = .symbol .roundOpen ∨ token = .symbol .dot

theorem extends_suffix :
    Extends more ((arguments inner).orElse memberAccess) ((arguments wider).orElse memberAccess)
      (Starts startsSuffix) fun _ => True := by
  have hlist : ExtendsList more (inner 0) (wider 0) (symbol .comma) (symbol .comma)
      (Starts (opens · = true)) (Starts (· = .symbol .comma))
      (Starts (· = .symbol .roundClose)) := by
    constructor
    · refine (hinner.reads 0).imp (fun _ => id) fun rest hrest => follow_of_closes ?_
      rcases hrest with hrest | hrest
      · exact hrest.next.imp (by rintro _ rfl; rfl)
      · exact hrest.next.imp (by rintro _ rfl; rfl)
    · exact .expect_starts _ _
    · exact takes_step (advances_symbol _) (hinner.takes 0) fun _ _ hbuilt => hbuilt.ne_nil
    · rintro rest (hrest | hrest)
      · exact hinner.refuses_append hrest (by rintro _ rfl; rfl) 0
      · exact hinner.refuses_append hrest (by rintro _ rfl; rfl) 0
    · exact fun rest hrest => Refuses.bind (refuses_expect ((hrest.append more).next.imp
        (by rintro _ rfl ⟨⟩))) _
    · exact fun rest hrest _ => refuses_expect ((hrest.append more).next.imp (by rintro _ rfl ⟨⟩))
  have hvalues := hlist.separatedBy.imp (fun _ => id) fun _ => Or.inl
  have harguments : Extends more (arguments inner) (arguments wider)
      (Starts (· = .symbol .roundOpen)) fun _ => True :=
    (Extends.between (.expect_starts _ _) hvalues (.expect_starts _ _)).bind fun _ => .pure _ _
  have hmember : Extends more memberAccess memberAccess (Starts (· = .symbol .dot)) fun _ => True :=
    (Extends.expect_starts _ _).bind fun _ => (Extends.satisfy _ _).bind fun _ => .pure _ _
  refine harguments.orElse_starts hmember fun input hinput => ?_
  exact Refuses.bind (Refuses.between (refuses_expect (hinput.imp (by rintro _ rfl ⟨⟩))) _ _) _

omit hinner in
theorem extends_here {α : Type} {next widerNext : Nat → Parser α} {kind : Token → Prop}
    {after : List Lexeme → Prop}
    (hnext : ∀ start, Extends more (next start) (widerNext start) (Starts kind) after) :
    Extends more (here >>= next) (here >>= widerNext) (Starts kind) after := by
  intro input value rest hresult hrest
  rw [result_bind] at hresult ⊢
  obtain ⟨hinput, hwider⟩ := hnext _ input value rest hresult hrest
  refine ⟨hinput, ?_⟩
  obtain ⟨-, -⟩ := hinput
  exact hwider

omit hinner in
theorem refuses_suffix_of_next {input : List Lexeme} (hnext : Next (¬startsSuffix ·) input) :
    ((arguments wider).orElse memberAccess).Refuses input := by
  have harguments : (arguments wider).Refuses input := Refuses.bind (Refuses.between
    (refuses_expect (hnext.imp fun token htoken heq => htoken (.inl heq))) _ _) _
  exact harguments.orElseRefuses (Refuses.bind
    (refuses_expect (hnext.imp fun token htoken heq => htoken (.inr heq))) _)

theorem extends_chain (hmore : Next (· = .newline) more) :
    Extends more (chain inner) (chain wider) (Starts (startsOperand · = true))
      (Next (¬startsSuffix ·)) := by
  have htakes : (spanned ((arguments inner).orElse memberAccess)).Takes fun taken _ => taken ≠ [] :=
    (built_suffix hinner.takes).spanned.imp fun _ _ hsuffix => hsuffix.2.ne_nil
  have hsuffixes : Extends more (many (spanned ((arguments inner).orElse memberAccess)))
      (many (spanned ((arguments wider).orElse memberAccess)))
      (fun rest => Starts startsSuffix rest ∨ Next (¬startsSuffix ·) rest)
      (Next (¬startsSuffix ·)) := by
    refine ((extends_suffix hinner).spanned.always _).many htakes fun rest hrest _ => ?_
    refine (refuses_suffix_of_next (hrest.append (hmore.imp ?_))).spanned
    rintro _ rfl (⟨⟨⟩⟩ | ⟨⟨⟩⟩)
  exact extends_here fun start => ((extends_atom hinner).always _).bind fun object =>
    hsuffixes.bind fun _ => .pure _ _

theorem extends_unary :
    Extends more (unary inner) (unary wider) (Starts (unaryOperator? · ≠ none)) (Follow inner) := by
  refine Extends.bind (Extends.spanned ?_) fun _ => .pure _ _
  exact (Extends.satisfy_starts (fun _ => id) _).bind fun _ =>
    (hinner.reads _).bind fun _ => .pure _ _

omit hinner in
theorem Follow.next {rest : List Lexeme} (hrest : Follow inner rest) :
    Next (¬startsSuffix ·) rest := by
  cases rest with
  | nil => exact .nil
  | cons lexeme tail =>
      obtain ⟨hround, hdot, -⟩ := hrest lexeme tail rfl
      exact .cons (not_or_intro hround hdot)

omit hinner in
theorem test_infixOperator {power strength : Nat} {token : Token} {operator : BinaryOperator}
    (htest : (infixOperator? token).filter (fun read => power ≤ read.1) ≠ none)
    (hoperation : infixOperator? token = some (strength, operator)) :
    (infixOperator? token).filter (fun read => power ≤ read.1) = some (strength, operator) := by
  rw [hoperation, Option.filter_some] at htest ⊢
  split
  · rfl
  · next hless => exact absurd (if_neg hless) htest

omit hinner in
theorem not_startsSuffix_of_operator {token : Token} (hoperation : infixOperator? token ≠ none) :
    ¬startsSuffix token := by
  rintro (rfl | rfl)
  · exact hoperation rfl
  · exact hoperation rfl

theorem extends_infixStep (power : Nat) :
    Extends more (infixStep inner power) (infixStep wider power) (Follow inner) (Follow inner) := by
  have hstep : Extends more (infixStep inner power) (infixStep wider power) _ (Follow inner) :=
    (Extends.satisfy _ _).bind fun read => (hinner.reads (read.1 + 1)).bind fun _ => .pure _ _
  intro input value rest hresult hrest
  obtain ⟨@⟨lexeme, tail, htest, -⟩, hwider⟩ := hstep input value rest hresult hrest
  refine ⟨?_, hwider⟩
  intro _ _ heq
  cases heq
  have hsuffix : ¬startsSuffix lexeme.token := by
    refine not_startsSuffix_of_operator fun hnone => htest ?_
    rw [hnone, Option.filter_none]
  refine ⟨fun heq => hsuffix (.inl heq), fun heq => hsuffix (.inr heq), ?_⟩
  intro strength operator hoperation hrefuses
  refine not_refuses_of_result hresult (Reads.bindRefuses (reads_satisfy
    (test_infixOperator htest hoperation)) ?_)
  rintro _ rfl
  exact hrefuses.bind _

omit hinner in
/-- In front of an operator that is left there is no operand, so it is left again. -/
theorem refuses_infixStep_append (hmore : Next (· = .newline) more) {power : Nat}
    {rest : List Lexeme} (hrest : Follow inner rest)
    (hrefuses : (infixStep inner power).Refuses rest) :
    (infixStep wider power).Refuses (rest ++ more) := by
  refine Refuses.bind (refuses_satisfy (Next.append ?_ (hmore.imp (by rintro _ rfl; rfl)))) _
  cases rest with
  | nil => exact .nil
  | cons lexeme tail =>
      refine .cons (by_contra fun htest => ?_)
      obtain ⟨⟨strength, operator⟩, hoperation⟩ :
          ∃ read, infixOperator? lexeme.token = some read := by
        refine Option.ne_none_iff_exists'.mp fun hnone => htest ?_
        rw [hnone, Option.filter_none]
      obtain ⟨⟨value, behind⟩, hvalue⟩ := Option.ne_none_iff_exists'.mp
        ((hrest lexeme tail rfl).2.2 strength operator hoperation)
      have hright : (inner (strength + 1)).Reads tail behind fun _ => True :=
        ⟨value, hvalue, trivial⟩
      have hstep : (infixStep inner power).Reads (lexeme :: tail) behind fun _ => True := by
        refine Reads.bind (reads_satisfy (test_infixOperator htest hoperation)) ?_
        rintro _ rfl
        exact hright.bind fun _ _ => .pure trivial
      exact not_refuses_of_result hstep.choose_spec.1 hrefuses

omit hinner in
theorem unaryOperator?_of_startsOperand (token : Token) (htoken : startsOperand token = true) :
    unaryOperator? token = none := by
  cases token with
  | symbol mark => cases mark <;> first | rfl | cases htoken
  | keyword word => cases word <;> first | rfl | cases htoken
  | _ => rfl

theorem extends_operation (hmore : Next (· = .newline) more) (power : Nat) :
    Extends more (operation inner power) (operation wider power) (Starts (opens · = true))
      (Follow inner) := by
  have htakes : (spanned (infixStep inner power)).Takes fun taken _ => taken ≠ [] :=
    (built_infixStep hinner.takes power).spanned.imp fun _ _ hstep => hstep.2.ne_nil
  have hsteps : Extends more (many (spanned (infixStep inner power)))
      (many (spanned (infixStep wider power))) (Follow inner) (Follow inner) := by
    have hstep := (extends_infixStep hinner power).spanned.imp (fun _ => id)
      fun _ (hrest : Follow inner _ ∨ Follow inner _) => hrest.elim id id
    refine (hstep.many htakes fun rest hrest hrefuses => ?_).imp (fun _ hinput => hinput.elim id id)
      fun _ => id
    refine (refuses_infixStep_append hmore hrest ?_).spanned
    rwa [Refuses, result_spanned, Option.map_eq_none_iff] at hrefuses
  have hchain := (extends_chain hinner hmore).imp (fun _ => id) fun _ (hrest : Follow inner _) =>
    hrest.next
  have hoperand := (extends_unary hinner).orElse_starts hchain fun input hinput =>
    refuses_unary (hinput.imp unaryOperator?_of_startsOperand)
  · refine (extends_here fun start => hoperand.bind fun first => hsteps.bind fun _ => .pure _ _).imp
      (fun input hinput => hinput.starts ?_) fun _ => id
    rintro token (htoken | htoken)
    · simp [opens, Option.isSome_iff_ne_none.mpr htoken]
    · simp [opens, htoken]

end Expressions

theorem built_fix_operation (power : Nat) :
    Takes (fix operation power) fun taken value => Built taken [.expression value] :=
  .fix (fun _ hinner power => built_operation hinner power) power

theorem extends_expression {more : List Lexeme} (hmore : Next (· = .newline) more) :
    Extends more expression expression (Starts (opens · = true)) (Ends 0) := by
  refine Extends.imp (Extends.fix ?_ ?_ ?_ 0) (fun _ => id) fun rest => follow_of_ends
  · intro bound wide hinner power
    have hexpressions : ExtendsExpressions more (below operation bound) (below operation wide) :=
      ⟨fun power => (built_fix_operation power).below, hinner,
        fun power _ hnext => (refuses_expression hnext power).below⟩
    exact extends_operation hexpressions hmore power
  · intro inner other rest hagree hrest lexeme tail heq
    obtain ⟨hround, hdot, hoperation⟩ := hrest lexeme tail heq
    refine ⟨hround, hdot, fun strength operator hoperator => ?_⟩
    rw [Refuses, ← hagree (strength + 1) tail (heq ▸ Nat.lt_succ_self _)]
    exact hoperation strength operator hoperator
  · exact fun power => (built_fix_operation power).imp fun _ _ _ => trivial

end BrightScript.Grammar
