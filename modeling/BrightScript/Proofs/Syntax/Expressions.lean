import BrightScript.Proofs.Syntax.Printer
import BrightScript.Proofs.Syntax.Reading

open BrightScript.Parser

namespace BrightScript.Grammar

/-- Whether an operand can begin with a token. -/
def startsOperand : Token → Bool
  | .integer _ | .float _ | .text _ | .identifier _ => true
  | .keyword word => word ∈ [.true, .false, .invalid]
  | .symbol mark => mark ∈ [.squareOpen, .curlyOpen, .roundOpen]
  | .directive _ | .newline | .comment => false

/-- Whether an expression can begin with a token. -/
def opens (token : Token) : Bool := startsOperand token || (unaryOperator? token).isSome

theorem opens_grouped {least power : Nat} {tokens : List Token}
    (htokens : ∃ token others, tokens = token :: others ∧ opens token = true) :
    ∃ token others, Printer.grouped least power tokens = token :: others ∧ opens token = true := by
  unfold Printer.grouped
  split
  · exact ⟨_, _, rfl, rfl⟩
  · exact htokens

theorem opens_append {tokens more : List Token}
    (htokens : ∃ token others, tokens = token :: others ∧ opens token = true) :
    ∃ token others, tokens ++ more = token :: others ∧ opens token = true := by
  obtain ⟨token, others, rfl, htoken⟩ := htokens
  exact ⟨token, others ++ more, rfl, htoken⟩

theorem opens_expression : ∀ value : Expression,
    ∃ token others, Printer.expression value = token :: others ∧ opens token = true
  | .literal _ value => by
      refine ⟨value.token, [], by rw [Printer.expression], ?_⟩
      rcases value with value | _ | _ | _ | _
      · cases value <;> rfl
      all_goals rfl
  | .variable _ name => ⟨.identifier name, [], by rw [Printer.expression], rfl⟩
  | .array _ items => ⟨_, _, by rw [Printer.expression], rfl⟩
  | .table _ fields => ⟨_, _, by rw [Printer.expression], rfl⟩
  | .call _ callee arguments => by
      rw [Printer.expression]
      exact opens_append (opens_grouped (opens_expression callee))
  | .member _ object name => by
      rw [Printer.expression]
      exact opens_append (opens_grouped (opens_expression object))
  | .binary _ operator left right => by
      rw [Printer.expression]
      exact opens_append (opens_grouped (opens_expression left))
  | .unary _ operator operand => by
      refine ⟨_, _, by rw [Printer.expression], ?_⟩
      cases operator <;> rfl

theorem next_opens {value : Expression} {input rest : List Lexeme}
    (hspells : Spells (Printer.expression value) input rest) : Next (opens · = true) input := by
  obtain ⟨token, others, htokens, htoken⟩ := opens_expression value
  rw [htokens, Spells.cons_iff] at hspells
  obtain ⟨span, tail, rfl, -⟩ := hspells
  exact .cons htoken

section Refusal

variable {inner : Nat → Parser Expression} {input : List Lexeme}

theorem reads_here : here.Reads input input fun _ => True := ⟨_, rfl, trivial⟩

theorem reads_newlines (hnext : Next (· ≠ .newline) input) :
    newlines.Reads input input fun _ => True := by
  have hrefuses : (expect .newline).Refuses input := refuses_expect hnext
  exact Reads.imp (Refuses.many hrefuses) fun _ _ => trivial

theorem refuses_literal (hnext : Next (startsOperand · = false) input) :
    literal.Refuses input := by
  refine refuses_satisfy (hnext.imp fun token htoken => ?_)
  cases token with
  | keyword word => cases word <;> simp_all [startsOperand]
  | _ => simp_all [startsOperand]

theorem refuses_identifier (hnext : Next (startsOperand · = false) input) :
    identifier.Refuses input := by
  refine refuses_satisfy (hnext.imp fun token htoken => ?_)
  cases token with
  | identifier name => cases htoken
  | _ => rfl

theorem refuses_array (hnext : Next (· ≠ .symbol .squareOpen) input) :
    (array inner).Refuses input :=
  (((refuses_expect hnext).bind _).between _ _).spanned.bind _

theorem refuses_table (hnext : Next (· ≠ .symbol .curlyOpen) input) :
    (table inner).Refuses input :=
  (((refuses_expect hnext).bind _).between _ _).spanned.bind _

theorem next_ne_of_starts {token : Token} (htoken : startsOperand token = true)
    (hnext : Next (startsOperand · = false) input) : Next (· ≠ token) input := by
  refine hnext.imp fun found hfound => ?_
  rintro rfl
  rw [htoken] at hfound
  cases hfound

theorem refuses_atom (hnext : Next (startsOperand · = false) input) :
    (atom inner).Refuses input := by
  refine refuses_choice ?_
  simp only [List.forall_mem_cons, List.not_mem_nil, false_implies, implies_true, and_true]
  refine ⟨(refuses_literal hnext).spanned.bind _, (refuses_identifier hnext).spanned.bind _,
    refuses_array (next_ne_of_starts rfl hnext), refuses_table (next_ne_of_starts rfl hnext), ?_⟩
  exact (refuses_expect (next_ne_of_starts rfl hnext)).between _ _

theorem refuses_unary (hnext : Next (unaryOperator? · = none) input) :
    (unary inner).Refuses input :=
  ((refuses_satisfy hnext).bind _).spanned.bind _

theorem refuses_operation (hnext : Next (opens · = false) input) (power : Nat) :
    (operation inner power).Refuses input := by
  have hunary : Next (unaryOperator? · = none) input :=
    hnext.imp fun token htoken => by simp_all [opens]
  have hoperand : Next (startsOperand · = false) input :=
    hnext.imp fun token htoken => by simp_all [opens]
  refine reads_here.bindRefuses fun _ _ => ?_
  refine ((refuses_unary hunary).orElseRefuses ?_).bind _
  exact reads_here.bindRefuses fun _ _ => (refuses_atom hoperand).bind _

theorem refuses_unary_of_atom {good : Expression → Prop} {rest : List Lexeme}
    (hatom : (atom inner).Reads input rest good) : (unary inner).Refuses input := by
  refine refuses_unary fun lexeme hlexeme => ?_
  by_contra hunary
  have hoperand : Next (startsOperand · = false) input := by
    intro found hfound
    obtain rfl := Option.mem_unique hlexeme hfound
    generalize lexeme.token = token at hunary
    cases token with
    | symbol mark => cases mark <;> simp_all [startsOperand, unaryOperator?]
    | keyword word => cases word <;> simp_all [startsOperand, unaryOperator?]
    | _ => exact absurd rfl hunary
  obtain ⟨value, hvalue, -⟩ := hatom
  rw [refuses_atom hoperand] at hvalue
  cases hvalue

end Refusal

/-- How things with commas between them are read up to a rest, each with its separator. -/
structure CommaRules {α β γ : Type} (item : Parser α) (separator : Parser β)
    (write : γ → List Token) (good : γ → α → Prop) (bound : Nat) (rest : List Lexeme) : Prop where
  reads : ∀ {one : γ} {inside after : List Lexeme}, inside.length ≤ bound →
    Spells (write one) inside after →
      (after = rest ∨ ∃ span tail, after = ⟨.symbol .comma, span⟩ :: tail) →
        item.Reads inside after (good one)
  comma : ∀ {one : γ} {inside after : List Lexeme} (span : Span), Spells (write one) inside after →
    separator.Reads (⟨.symbol .comma, span⟩ :: inside) inside fun _ => True
  noItem : item.Refuses rest
  noComma : separator.Refuses rest

namespace CommaRules

variable {α β γ : Type} {item : Parser α} {separator : Parser β} {write : γ → List Token}
  {good : γ → α → Prop} {bound : Nat} {input rest : List Lexeme} {items : List γ}

theorem follows (hspells : Spells (items.flatMap fun item => .symbol .comma :: write item) input
    rest) : input = rest ∨ ∃ span tail, input = ⟨.symbol .comma, span⟩ :: tail := by
  cases items with
  | nil => exact .inl (Spells.nil_iff.mp hspells)
  | cons one others =>
      obtain ⟨span, tail, rfl, -⟩ := Spells.cons_iff.mp hspells
      exact .inr ⟨span, tail, rfl⟩

theorem further (hrules : CommaRules item separator write good bound rest)
    (hlength : input.length ≤ bound)
    (hspells : Spells (items.flatMap fun item => .symbol .comma :: write item) input rest) :
    Reads (many (do let _ ← separator; item)) input rest (List.Forall₂ good items) := by
  induction items generalizing input with
  | nil =>
      obtain rfl := Spells.nil_iff.mp hspells
      refine Reads.imp (Refuses.many (hrules.noComma.bind _)) ?_
      rintro _ rfl
      exact .nil
  | cons one others ih =>
      obtain ⟨span, inside, rfl, htail⟩ := Spells.cons_iff.mp hspells
      obtain ⟨after, hone, hothers⟩ := Spells.append_iff.mp htail
      have hinside := hone.length_eq
      rw [List.length_cons] at hlength
      have hfirst : Reads (do let _ ← separator; item) (⟨.symbol .comma, span⟩ :: inside) after
          (good one) :=
        (hrules.comma span hone).bind fun _ _ =>
          hrules.reads (by omega) hone (follows hothers)
      refine Reads.imp (hfirst.many ?_ (ih ?_ hothers)) ?_
      · rw [List.length_cons]
        omega
      · omega
      · rintro _ ⟨value, values, rfl, hvalue, hvalues⟩
        exact .cons hvalue hvalues

theorem separated (hrules : CommaRules item separator write good bound rest)
    (hlength : input.length ≤ bound)
    (hspells : Spells (Printer.separated write items) input rest) :
    (separatedBy item separator).Reads input rest (List.Forall₂ good items) := by
  cases items with
  | nil =>
      obtain rfl := Spells.nil_iff.mp hspells
      refine hrules.noItem.optional.bind ?_
      rintro _ rfl
      exact .pure .nil
  | cons one others =>
      obtain ⟨after, hone, hothers⟩ := Spells.append_iff.mp hspells
      have hinside := hone.length_eq
      refine (hrules.reads hlength hone (follows hothers)).optional.bind ?_
      rintro _ ⟨value, rfl, hvalue⟩
      have hmany := hrules.further (by omega) hothers
      exact hmany.bind fun values hvalues => .pure (.cons hvalue hvalues)

theorem trailing (hrules : CommaRules item separator write good bound rest)
    (hlength : input.length ≤ bound)
    (hspells : Spells (Printer.separated write items) input rest) :
    (separatedByTrailing item separator).Reads input rest (List.Forall₂ good items) := by
  refine (hrules.separated hlength hspells).bind fun values hvalues => ?_
  cases values with
  | nil => exact .pure hvalues
  | cons value values => exact hrules.noComma.optional.bind fun _ _ => .pure hvalues

end CommaRules

/-- Whether a token can stand behind an expression and belongs to what is around it. -/
def closes : Token → Bool
  | .newline => true
  | .keyword word => word = .then
  | .symbol mark => mark ∈ [.comma, .roundClose, .squareClose, .curlyClose]
  | _ => false

/-- The input does not go on with a suffix or with an operator of at least a power. -/
def Ends (power : Nat) (input : List Lexeme) : Prop :=
  Next (fun token => token ≠ .symbol .roundOpen ∧ token ≠ .symbol .dot ∧
    ∀ strength operator, infixOperator? token = some (strength, operator) → strength < power) input

theorem Ends.mono {least power : Nat} {input : List Lexeme} (hends : Ends least input)
    (hle : least ≤ power) : Ends power input := by
  refine Next.imp hends ?_
  rintro token ⟨hround, hdot, hless⟩
  refine ⟨hround, hdot, fun strength operator hinfix => ?_⟩
  exact lt_of_lt_of_le (hless strength operator hinfix) hle

theorem ends_of_closes {input : List Lexeme} (hnext : Next (closes · = true) input) (power : Nat) :
    Ends power input := by
  refine hnext.imp fun token htoken => ?_
  cases token with
  | symbol mark => cases mark <;> simp_all [closes, infixOperator?]
  | keyword word => cases word <;> simp_all [closes, infixOperator?]
  | _ => simp [infixOperator?]

theorem not_opens_of_closes {token : Token} (htoken : closes token = true) :
    opens token = false := by
  cases token with
  | symbol mark => cases mark <;> simp_all [closes, opens, startsOperand, unaryOperator?]
  | keyword word => cases word <;> simp_all [closes, opens, startsOperand, unaryOperator?]
  | newline => rfl
  | _ => cases htoken

theorem infixOperator?_token (operator : BinaryOperator) :
    infixOperator? operator.token = some (operator.power, operator) := by
  cases operator <;> rfl

theorem unaryOperator?_token (operator : UnaryOperator) :
    unaryOperator? operator.token = some (operator.power, operator) := by
  cases operator <;> rfl

theorem ends_of_operator {operator : BinaryOperator} {power : Nat} (hless : operator.power < power)
    (span : Span) (tail : List Lexeme) : Ends power (⟨operator.token, span⟩ :: tail) := by
  refine .cons ⟨?_, ?_, ?_⟩
  · cases operator <;> simp [BinaryOperator.token]
  · cases operator <;> simp [BinaryOperator.token]
  · intro strength found hinfix
    rw [infixOperator?_token] at hinfix
    cases hinfix
    exact hless

theorem Ends.prefixOperator {operator : UnaryOperator} {input : List Lexeme}
    (hends : Ends (operator.power + 1) input) : Ends operator.power input := by
  refine Next.imp hends ?_
  rintro token ⟨hround, hdot, hless⟩
  refine ⟨hround, hdot, fun strength found hinfix => ?_⟩
  have hle := hless strength found hinfix
  have hdiffers : strength ≠ operator.power := by
    rintro rfl
    revert hinfix
    cases token with
    | symbol mark => cases mark <;> cases operator <;> simp [infixOperator?, UnaryOperator.power]
    | keyword word => cases word <;> cases operator <;> simp [infixOperator?, UnaryOperator.power]
    | _ => simp [infixOperator?]
  omega

theorem operand_of_le {least : Nat} {value : Expression} (hle : least ≤ value.power) :
    Printer.operand least value = Printer.expression value :=
  if_neg (Nat.not_lt.mpr hle)

theorem operand_of_lt {least : Nat} {value : Expression} (hlt : value.power < least) :
    Printer.operand least value = Printer.bracketed (Printer.expression value) :=
  if_pos hlt

/-- A parser of expressions reads back what is written, on inputs that are shorter than a bound. -/
structure ReadsBelow (inner : Nat → Parser Expression) (bound : Nat) : Prop where
  reads : ∀ {value : Expression} {least : Nat} {input rest : List Lexeme}, input.length < bound →
    Spells (Printer.operand least value) input rest → Ends least rest →
      (inner least).Reads input rest (·.bare = value.bare)
  refuses : ∀ {input : List Lexeme} (power : Nat), Next (opens · = false) input →
    (inner power).Refuses input

section Operands

variable {inner : Nat → Parser Expression} {bound : Nat} {input rest : List Lexeme}

theorem ReadsBelow.expression (hinner : ReadsBelow inner bound) {value : Expression}
    (hlength : input.length < bound) (hspells : Spells (Printer.expression value) input rest)
    (hends : Ends 0 rest) : (inner 0).Reads input rest (·.bare = value.bare) := by
  rw [← operand_of_le (Nat.zero_le _)] at hspells
  exact hinner.reads hlength hspells hends

theorem ReadsBelow.commaRules (hinner : ReadsBelow inner bound) {β : Type} {separator : Parser β}
    (hlength : input.length < bound) (hrest : Next (closes · = true) rest)
    (hcomma : ∀ {inside : List Lexeme} (span : Span), Next (· ≠ .newline) inside →
      separator.Reads (⟨.symbol .comma, span⟩ :: inside) inside fun _ => True)
    (hnone : separator.Refuses rest) :
    CommaRules (inner 0) separator Printer.expression (fun value read => read.bare = value.bare)
      input.length rest where
  reads := by
    rintro one inside after hinside hspells hafter
    refine hinner.expression (by omega) hspells ?_
    rcases hafter with rfl | ⟨span, tail, rfl⟩
    · exact ends_of_closes hrest 0
    · exact ends_of_closes (.cons rfl) 0
  comma := by
    intro one inside after span hspells
    refine hcomma span ((next_opens hspells).imp ?_)
    rintro token htoken rfl
    cases htoken
  noItem := hinner.refuses 0 (hrest.imp fun _ => not_opens_of_closes)
  noComma := hnone

theorem map_bare_eq {values reads : List Expression}
    (hreads : List.Forall₂ (fun value read => Expression.bare read = Expression.bare value) values
      reads) : Expression.bareAll reads = Expression.bareAll values := by
  induction hreads with
  | nil => rfl
  | cons hfirst _ ih => rw [Expression.bareAll, Expression.bareAll, hfirst, ih]

theorem bareEntries_eq {entries reads : List (String × Expression)}
    (hreads : List.Forall₂ (fun entry read : String × Expression =>
      read.1 = entry.1 ∧ read.2.bare = entry.2.bare) entries reads) :
    Expression.bareEntries reads = Expression.bareEntries entries := by
  induction hreads with
  | nil => rfl
  | @cons entry read _ _ hfirst _ ih =>
      obtain ⟨name, value⟩ := entry
      obtain ⟨name', value'⟩ := read
      obtain ⟨hname, hvalue⟩ := hfirst
      dsimp only at hname hvalue
      rw [Expression.bareEntries, Expression.bareEntries, hname, hvalue, ih]

theorem reads_atom_bracketed (hinner : ReadsBelow inner bound) {value : Expression}
    (hlength : input.length ≤ bound)
    (hspells : Spells (Printer.bracketed (Printer.expression value)) input rest) :
    (atom inner).Reads input rest (·.bare = value.bare) := by
  obtain ⟨span, inside, span', rfl, hvalue⟩ := hspells.enclosed
  refine Refuses.choice ((refuses_satisfy (.cons rfl)).spanned.bind _) ?_
  refine Refuses.choice ((refuses_satisfy (.cons rfl)).spanned.bind _) ?_
  refine Refuses.choice (refuses_array (.cons (by simp))) ?_
  refine Refuses.choice (refuses_table (.cons (by simp))) ?_
  refine Reads.choice (.between reads_expect (hinner.expression ?_ hvalue ?_) reads_expect)
  · rw [List.length_cons] at hlength
    omega
  · exact ends_of_closes (.cons rfl) 0

theorem reads_atom_literal (span : Span) (value : Literal) :
    (atom inner).Reads (⟨value.token, span⟩ :: rest) rest
      (·.bare = (Expression.literal span value).bare) := by
  have hliteral : literal.Reads (⟨value.token, span⟩ :: rest) rest (· = value) := by
    refine reads_satisfy ?_
    rcases value with value | _ | _ | _ | _
    · cases value <;> rfl
    all_goals rfl
  refine Reads.choice (hliteral.spanned.bind ?_)
  rintro ⟨place, _⟩ rfl
  refine .pure ?_
  rw [Expression.bare, Expression.bare]

theorem reads_atom_variable (span : Span) (name : String) :
    (atom inner).Reads (⟨.identifier name, span⟩ :: rest) rest
      (·.bare = (Expression.variable span name).bare) := by
  have hidentifier : identifier.Reads (⟨.identifier name, span⟩ :: rest) rest (· = name) :=
    reads_satisfy rfl
  refine Refuses.choice ((refuses_satisfy (.cons rfl)).spanned.bind _) ?_
  refine Reads.choice (hidentifier.spanned.bind ?_)
  rintro ⟨place, _⟩ rfl
  refine .pure ?_
  rw [Expression.bare, Expression.bare]

theorem reads_array (hinner : ReadsBelow inner bound) {items : List Expression}
    (hlength : input.length ≤ bound)
    (hspells : Spells (.symbol .squareOpen :: (Printer.listed items ++ [.symbol .squareClose]))
      input rest) :
    (array inner).Reads input rest (·.bare = (Expression.array .none items).bare) := by
  obtain ⟨span, inside, span', rfl, hitems⟩ := hspells.enclosed
  rw [List.length_cons] at hlength
  rw [Printer.listed_eq_separated] at hitems
  have hinside : Next (· ≠ .newline) inside := by
    cases items with
    | nil =>
        obtain rfl := Spells.nil_iff.mp hitems
        exact .cons (by simp)
    | cons item items =>
        obtain ⟨_, hitem, -⟩ := Spells.append_iff.mp hitems
        refine (next_opens hitem).imp ?_
        rintro token htoken rfl
        cases htoken
  have hend : Next (· ≠ .newline) (⟨.symbol .squareClose, span'⟩ :: rest) := .cons (by simp)
  have hrules : CommaRules (inner 0) (do let _ ← newlines; symbol .comma; newlines)
      Printer.expression (fun value read => read.bare = value.bare) inside.length
      (⟨.symbol .squareClose, span'⟩ :: rest) := by
    refine hinner.commaRules hlength (.cons rfl) (fun span hnext => ?_) ?_
    · exact (reads_newlines (.cons (by simp))).bind fun _ _ => reads_expect.bind fun _ _ =>
        reads_newlines hnext
    · exact (reads_newlines hend).bindRefuses fun _ _ => (refuses_expect (.cons (by simp))).bind _
  have hopening : Reads (do symbol .squareOpen; newlines) (⟨.symbol .squareOpen, span⟩ :: inside)
      inside fun _ => True :=
    reads_expect.bind fun _ _ => reads_newlines hinside
  have hclosing : Reads (do let breaks ← newlines; symbol .squareClose; return breaks)
      (⟨.symbol .squareClose, span'⟩ :: rest) rest fun _ => True :=
    (reads_newlines hend).bind fun _ _ => reads_expect.bind fun _ _ => .pure trivial
  refine (hopening.between (hrules.trailing le_rfl hitems) hclosing).spanned.bind ?_
  rintro ⟨place, values⟩ hvalues
  refine .pure ?_
  rw [Expression.bare, Expression.bare, map_bare_eq hvalues]

theorem next_entry {member : String × Expression}
    (hspells : Spells (Printer.entry member) input rest) : Next (· ≠ .newline) input := by
  obtain ⟨span, tail, rfl, -⟩ := Spells.cons_iff.mp hspells
  exact .cons (by simp)

theorem reads_entry (hinner : ReadsBelow inner bound) {member : String × Expression}
    (hlength : input.length ≤ bound) (hspells : Spells (Printer.entry member) input rest)
    (hends : Ends 0 rest) :
    (entry inner).Reads input rest fun read =>
      read.1 = member.1 ∧ read.2.bare = member.2.bare := by
  obtain ⟨span, colon, rfl, hcolon⟩ := Spells.cons_iff.mp hspells
  obtain ⟨span', inside, rfl, hvalue⟩ := Spells.cons_iff.mp hcolon
  have hkey : (identifier.orElse text).Reads (⟨.text member.1, span⟩ :: ⟨.symbol .colon, span'⟩ ::
      inside) (⟨.symbol .colon, span'⟩ :: inside) (· = member.1) :=
    Refuses.orElse (refuses_satisfy (.cons rfl)) (reads_satisfy rfl)
  refine hkey.bind ?_
  rintro _ rfl
  refine reads_expect.bind fun _ _ => ?_
  rw [List.length_cons, List.length_cons] at hlength
  refine (hinner.expression (by omega) hvalue hends).bind fun value hbare => ?_
  exact .pure ⟨rfl, hbare⟩

theorem reads_table (hinner : ReadsBelow inner bound) {members : List (String × Expression)}
    (hlength : input.length ≤ bound)
    (hspells : Spells (.symbol .curlyOpen :: (Printer.entries members ++ [.symbol .curlyClose]))
      input rest) :
    (table inner).Reads input rest (·.bare = (Expression.table .none members).bare) := by
  obtain ⟨span, inside, span', rfl, hentries⟩ := hspells.enclosed
  rw [List.length_cons] at hlength
  rw [Printer.entries_eq_separated] at hentries
  have hinside : Next (· ≠ .newline) inside := by
    cases members with
    | nil =>
        obtain rfl := Spells.nil_iff.mp hentries
        exact .cons (by simp)
    | cons member members =>
        obtain ⟨_, hmember, -⟩ := Spells.append_iff.mp hentries
        exact next_entry hmember
  have hend : Next (· ≠ .newline) (⟨.symbol .curlyClose, span'⟩ :: rest) := .cons (by simp)
  have hrules : CommaRules (entry inner) entrySeparator Printer.entry
      (fun member read => read.1 = member.1 ∧ read.2.bare = member.2.bare) inside.length
      (⟨.symbol .curlyClose, span'⟩ :: rest) := by
    constructor
    · intro member first after hfirst hmember hafter
      refine reads_entry hinner (by omega) hmember ?_
      rcases hafter with rfl | ⟨span, tail, rfl⟩
      · exact ends_of_closes (.cons rfl) 0
      · exact ends_of_closes (.cons rfl) 0
    · intro member first after span hmember
      exact Reads.orElse (reads_expect.bind fun _ _ => reads_newlines (next_entry hmember)) _
    · exact Refuses.bind (Refuses.orElseRefuses (refuses_satisfy (.cons rfl))
        (refuses_satisfy (.cons rfl))) _
    · exact Refuses.orElseRefuses ((refuses_expect (.cons (by simp))).bind _)
        ((refuses_expect hend).bind _)
  have hopening : Reads (do symbol .curlyOpen; newlines) (⟨.symbol .curlyOpen, span⟩ :: inside)
      inside fun _ => True :=
    reads_expect.bind fun _ _ => reads_newlines hinside
  have hclosing : Reads (do let breaks ← newlines; symbol .curlyClose; return breaks)
      (⟨.symbol .curlyClose, span'⟩ :: rest) rest fun _ => True :=
    (reads_newlines hend).bind fun _ _ => reads_expect.bind fun _ _ => .pure trivial
  refine (hopening.between (hrules.trailing le_rfl hentries) hclosing).spanned.bind ?_
  rintro ⟨place, values⟩ hvalues
  refine .pure ?_
  rw [Expression.bare, Expression.bare, bareEntries_eq hvalues]

theorem reads_arguments (hinner : ReadsBelow inner bound) {values : List Expression}
    (hlength : input.length ≤ bound)
    (hspells : Spells (Printer.bracketed (Printer.listed values)) input rest) :
    (arguments inner).Reads input rest fun suffix =>
      ∃ reads, suffix = .call reads ∧ Expression.bareAll reads = Expression.bareAll values := by
  obtain ⟨span, inside, span', rfl, hvalues⟩ := hspells.enclosed
  rw [List.length_cons] at hlength
  rw [Printer.listed_eq_separated] at hvalues
  have hrules : CommaRules (inner 0) (symbol .comma) Printer.expression
      (fun value read => read.bare = value.bare) inside.length
      (⟨.symbol .roundClose, span'⟩ :: rest) :=
    hinner.commaRules hlength (.cons rfl) (fun _ _ => reads_expect)
      (refuses_expect (.cons (by simp)))
  refine Reads.bind (.between reads_expect (hrules.separated le_rfl hvalues) reads_expect) ?_
  intro reads hreads
  exact .pure ⟨reads, rfl, map_bare_eq hreads⟩

theorem reads_memberAccess (name : String) (span span' : Span) :
    memberAccess.Reads (⟨.symbol .dot, span⟩ :: ⟨.identifier name, span'⟩ :: rest) rest
      (· = .member name) := by
  have hidentifier : identifier.Reads (⟨.identifier name, span'⟩ :: rest) rest (· = name) :=
    reads_satisfy rfl
  refine reads_expect.bind fun _ _ => hidentifier.bind ?_
  rintro _ rfl
  exact .pure rfl

/-- An operand is read as an atom with suffixes behind it. -/
def ReadsChain (inner : Nat → Parser Expression) (value : Expression) (input rest : List Lexeme) :
    Prop :=
  ∃ object middle suffixes, (atom inner input).result = some (object, middle) ∧
    Steps (spanned ((arguments inner).orElse memberAccess)) middle suffixes rest ∧
    ∀ start : Nat, Expression.bare (suffixes.foldl
      (fun object suffix => suffix.2.apply ⟨start, suffix.1.stop⟩ object) object) = value.bare

theorem ReadsChain.of_atom {value : Expression}
    (hatom : (atom inner).Reads input rest (·.bare = value.bare)) :
    ReadsChain inner value input rest := by
  obtain ⟨object, hobject, hbare⟩ := hatom
  exact ⟨object, rest, [], hobject, .nil, fun _ => hbare⟩

theorem ReadsChain.suffix {value whole : Expression} {middle : List Lexeme} {good : Suffix → Prop}
    (hchain : ReadsChain inner value input middle)
    (hsuffix : Reads ((arguments inner).orElse memberAccess) middle rest good)
    (hshorter : rest.length < middle.length)
    (hwhole : ∀ suffix, good suffix → ∀ span object, Expression.bare object = value.bare →
      (Suffix.apply span object suffix).bare = whole.bare) :
    ReadsChain inner whole input rest := by
  obtain ⟨object, start, suffixes, hatom, hsteps, hbare⟩ := hchain
  obtain ⟨last, hlast, hall⟩ := hsteps.concat hsuffix.spanned hshorter
  refine ⟨object, start, suffixes ++ [last], hatom, hall, fun place => ?_⟩
  rw [List.foldl_append]
  exact hwhole last.2 hlast _ _ (hbare place)

theorem ReadsChain.of_operand (hinner : ReadsBelow inner bound) {value : Expression}
    (hlength : input.length ≤ bound)
    (hspells : Spells (Printer.operand Expression.operandPower value) input rest)
    (hvalue : Expression.operandPower ≤ value.power →
      Spells (Printer.expression value) input rest → ReadsChain inner value input rest) :
    ReadsChain inner value input rest := by
  by_cases hpower : Expression.operandPower ≤ value.power
  · rw [operand_of_le hpower] at hspells
    exact hvalue hpower hspells
  · rw [operand_of_lt (Nat.lt_of_not_le hpower)] at hspells
    exact .of_atom (reads_atom_bracketed hinner hlength hspells)

theorem readsChain (hinner : ReadsBelow inner bound) : ∀ {value : Expression}
    {input rest : List Lexeme}, Expression.operandPower ≤ value.power → input.length ≤ bound →
      Spells (Printer.expression value) input rest → ReadsChain inner value input rest
  | .literal place value, input, rest, _, _, hspells => by
      rw [Printer.expression, Spells.cons_iff] at hspells
      obtain ⟨span, tail, rfl, hrest⟩ := hspells
      obtain rfl := Spells.nil_iff.mp hrest
      exact .of_atom (reads_atom_literal span value)
  | .variable place name, input, rest, _, _, hspells => by
      rw [Printer.expression, Spells.cons_iff] at hspells
      obtain ⟨span, tail, rfl, hrest⟩ := hspells
      obtain rfl := Spells.nil_iff.mp hrest
      exact .of_atom (reads_atom_variable span name)
  | .array place items, input, rest, _, hlength, hspells => by
      rw [Printer.expression] at hspells
      obtain ⟨span, tail, rfl, -⟩ := Spells.cons_iff.mp hspells
      refine .of_atom (Refuses.choice ((refuses_satisfy (.cons rfl)).spanned.bind _) ?_)
      refine Refuses.choice ((refuses_satisfy (.cons rfl)).spanned.bind _) ?_
      exact Reads.choice (reads_array hinner hlength hspells)
  | .table place members, input, rest, _, hlength, hspells => by
      rw [Printer.expression] at hspells
      obtain ⟨span, tail, rfl, -⟩ := Spells.cons_iff.mp hspells
      refine .of_atom (Refuses.choice ((refuses_satisfy (.cons rfl)).spanned.bind _) ?_)
      refine Refuses.choice ((refuses_satisfy (.cons rfl)).spanned.bind _) ?_
      refine Refuses.choice (refuses_array (.cons (by simp))) ?_
      exact Reads.choice (reads_table hinner hlength hspells)
  | .call place callee values, input, rest, _, hlength, hspells => by
      rw [Printer.expression, Spells.append_iff] at hspells
      obtain ⟨middle, hcallee, hvalues⟩ := hspells
      have hmiddle := hcallee.length_eq
      have hrest := hvalues.length_eq
      have hchain := ReadsChain.of_operand hinner hlength hcallee fun hpower =>
        readsChain hinner hpower hlength
      refine hchain.suffix (Reads.orElse (reads_arguments hinner (by omega) hvalues) _) ?_ ?_
      · rw [hrest, Printer.bracketed, List.length_cons]
        omega
      · rintro _ ⟨reads, rfl, hreads⟩ span object hobject
        rw [Suffix.apply, Expression.bare, Expression.bare, hobject, hreads]
  | .member place object name, input, rest, _, hlength, hspells => by
      rw [Printer.expression, Spells.append_iff] at hspells
      obtain ⟨middle, hobject, hname⟩ := hspells
      obtain ⟨span, dot, rfl, hdot⟩ := Spells.cons_iff.mp hname
      obtain ⟨span', tail, rfl, hrest⟩ := Spells.cons_iff.mp hdot
      obtain rfl := Spells.nil_iff.mp hrest
      have hchain := ReadsChain.of_operand hinner hlength hobject fun hpower =>
        readsChain hinner hpower hlength
      have hrefuses : (arguments inner).Refuses (⟨.symbol .dot, span⟩ ::
          ⟨.identifier name, span'⟩ :: tail) :=
        ((refuses_expect (.cons (by simp))).between _ _).bind _
      refine hchain.suffix (hrefuses.orElse (reads_memberAccess name span span')) ?_ ?_
      · simp
      · rintro _ rfl span found hfound
        rw [Suffix.apply, Expression.bare, Expression.bare, hfound]
  | .binary _ operator _ _, _, _, hpower, _, _ =>
      absurd hpower (Nat.not_le.mpr operator.power_lt)
  | .unary _ operator _, _, _, hpower, _, _ =>
      absurd hpower (Nat.not_le.mpr operator.power_lt)

theorem refuses_suffix {power : Nat} (hends : Ends power rest) :
    ((arguments inner).orElse memberAccess).Refuses rest := by
  refine Refuses.orElseRefuses (Refuses.bind (Refuses.between (refuses_expect ?_) _ _) _)
    ((refuses_expect ?_).bind _)
  · exact Next.imp hends fun _ hnext => hnext.1
  · exact Next.imp hends fun _ hnext => hnext.2.1

theorem ReadsChain.reads {value : Expression} {power : Nat}
    (hchain : ReadsChain inner value input rest) (hends : Ends power rest) :
    ((unary inner).orElse (chain inner)).Reads input rest (·.bare = value.bare) := by
  obtain ⟨object, middle, suffixes, hatom, hsteps, hbare⟩ := hchain
  have hobject : (atom inner).Reads input middle (· = object) := ⟨object, hatom, rfl⟩
  refine (refuses_unary_of_atom hobject).orElse ?_
  refine reads_here.bind fun start _ => hobject.bind ?_
  rintro _ rfl
  refine Reads.bind (hsteps.many (refuses_suffix hends).spanned) ?_
  rintro _ rfl
  exact .pure (hbare start)

end Operands

section Operators

variable {inner : Nat → Parser Expression} {bound : Nat} {input rest : List Lexeme}

/-- An expression is read as an operand with operators of at least a power behind it. -/
def ReadsSpine (inner : Nat → Parser Expression) (least : Nat) (value : Expression)
    (input rest : List Lexeme) : Prop :=
  ∃ first middle steps, ((unary inner).orElse (chain inner) input).result = some (first, middle) ∧
    Steps (spanned (infixStep inner least)) middle steps rest ∧
    ∀ start : Nat, Expression.bare (steps.foldl
      (fun left step => .binary ⟨start, step.1.stop⟩ step.2.1 left step.2.2) first) = value.bare

theorem ReadsSpine.of_operand {least : Nat} {value : Expression}
    (hfirst : ((unary inner).orElse (chain inner)).Reads input rest (·.bare = value.bare)) :
    ReadsSpine inner least value input rest := by
  obtain ⟨first, hresult, hbare⟩ := hfirst
  exact ⟨first, rest, [], hresult, .nil, fun _ => hbare⟩

theorem ReadsSpine.step {least : Nat} {operator : BinaryOperator} {left right : Expression}
    {middle : List Lexeme} (hleft : ReadsSpine inner least left input middle)
    (hstep : (infixStep inner least).Reads middle rest fun step =>
      step.1 = operator ∧ step.2.bare = right.bare)
    (hshorter : rest.length < middle.length) (place : Span) :
    ReadsSpine inner least (.binary place operator left right) input rest := by
  obtain ⟨first, start, steps, hfirst, hsteps, hbare⟩ := hleft
  obtain ⟨last, ⟨hoperator, hright⟩, hall⟩ := hsteps.concat hstep.spanned hshorter
  refine ⟨first, start, steps ++ [last], hfirst, hall, fun place => ?_⟩
  rw [List.foldl_append, List.foldl_cons, List.foldl_nil, Expression.bare, Expression.bare,
    hbare place, hoperator, hright]

theorem reads_infixStep (hinner : ReadsBelow inner bound) {operator : BinaryOperator}
    {right : Expression} {least : Nat} {span : Span} {inside : List Lexeme}
    (hleast : least ≤ operator.power) (hlength : inside.length < bound)
    (hspells : Spells (Printer.operand (operator.power + 1) right) inside rest)
    (hends : Ends (operator.power + 1) rest) :
    (infixStep inner least).Reads (⟨operator.token, span⟩ :: inside) rest fun step =>
      step.1 = operator ∧ step.2.bare = right.bare := by
  have htest : (infixOperator? operator.token).filter (fun taken => least ≤ taken.1) =
      some (operator.power, operator) := by
    rw [infixOperator?_token, Option.filter_some, if_pos (decide_eq_true hleast)]
  refine (reads_satisfy htest).bind ?_
  rintro _ rfl
  exact (hinner.reads hlength hspells hends).bind fun value hvalue => .pure ⟨rfl, hvalue⟩

theorem refuses_infixStep {least : Nat} (hends : Ends least rest) :
    (infixStep inner least).Refuses rest := by
  refine Refuses.bind (refuses_satisfy (Next.imp hends ?_)) _
  rintro token ⟨-, -, hless⟩
  rw [Option.filter_eq_none_iff]
  rintro ⟨strength, operator⟩ hinfix
  simpa using hless strength operator hinfix

theorem reads_unary (hinner : ReadsBelow inner bound) {operator : UnaryOperator}
    {operand : Expression} {span place : Span} {inside : List Lexeme}
    (hlength : inside.length < bound)
    (hspells : Spells (Printer.operand operator.power operand) inside rest)
    (hends : Ends operator.power rest) :
    (unary inner).Reads (⟨operator.token, span⟩ :: inside) rest
      (·.bare = (Expression.unary place operator operand).bare) := by
  have hinside : Reads (do
      let taken ← satisfy unaryOperator?
      let operand ← inner taken.1
      return (taken.2, operand)) (⟨operator.token, span⟩ :: inside) rest
        fun read => read.1 = operator ∧ read.2.bare = operand.bare := by
    refine (reads_satisfy (unaryOperator?_token operator)).bind ?_
    rintro _ rfl
    exact (hinner.reads hlength hspells hends).bind fun value hvalue => .pure ⟨rfl, hvalue⟩
  refine hinside.spanned.bind ?_
  rintro ⟨place, _, value⟩ ⟨rfl, hvalue⟩
  refine .pure ?_
  rw [Expression.bare, Expression.bare, hvalue]

/-- An expression that holds together at least as tightly as a power is read with operators of that
power. The induction follows the left operands. -/
theorem readsSpine (hinner : ReadsBelow inner bound) : ∀ {value : Expression} {least : Nat}
    {input rest : List Lexeme}, least ≤ value.power → input.length ≤ bound →
      Spells (Printer.expression value) input rest → Ends (value.power + 1) rest →
        ReadsSpine inner least value input rest
  | .binary place operator left right, least, input, rest, hleast, hlength, hspells, hends => by
      rw [Printer.expression, Spells.append_iff] at hspells
      obtain ⟨middle, hleft, hmiddle⟩ := hspells
      obtain ⟨span, inside, rfl, hright⟩ := Spells.cons_iff.mp hmiddle
      have hinput := hleft.length_eq
      have hinside := hright.length_eq
      rw [List.length_cons] at hinput
      have hspine : ReadsSpine inner least left input (⟨operator.token, span⟩ :: inside) := by
        by_cases hpower : operator.power ≤ left.power
        · rw [Printer.grouped, if_neg (Nat.not_lt.mpr hpower)] at hleft
          exact readsSpine hinner (hleast.trans hpower) hlength hleft
            (ends_of_operator (Nat.lt_succ_of_le hpower) span inside)
        · rw [Printer.grouped, if_pos (Nat.lt_of_not_le hpower)] at hleft
          have hchain := ReadsChain.of_atom (reads_atom_bracketed hinner hlength hleft)
          exact .of_operand (hchain.reads (ends_of_operator (Nat.lt_succ_self _) span inside))
      refine hspine.step (reads_infixStep hinner hleast (by omega) hright hends) ?_ place
      rw [List.length_cons]
      omega
  | .unary place operator operand, least, input, rest, hleast, hlength, hspells, hends => by
      rw [Printer.expression, Spells.cons_iff] at hspells
      obtain ⟨span, inside, rfl, hoperand⟩ := hspells
      have hunary : (unary inner).Reads (⟨operator.token, span⟩ :: inside) rest
          (·.bare = (Expression.unary place operator operand).bare) :=
        reads_unary hinner hlength hoperand hends.prefixOperator
      exact .of_operand (hunary.orElse _)
  | .literal .., _, _, _, _, hlength, hspells, hends
  | .variable .., _, _, _, _, hlength, hspells, hends
  | .array .., _, _, _, _, hlength, hspells, hends
  | .table .., _, _, _, _, hlength, hspells, hends
  | .call .., _, _, _, _, hlength, hspells, hends
  | .member .., _, _, _, _, hlength, hspells, hends =>
      .of_operand ((readsChain hinner le_rfl hlength hspells).reads hends)

theorem reads_operation (hinner : ReadsBelow inner bound) {value : Expression} {least place : Nat}
    (hleast : least ≤ place) (hlength : input.length ≤ bound)
    (hspells : Spells (Printer.operand place value) input rest) (hends : Ends least rest) :
    (operation inner least).Reads input rest (·.bare = value.bare) := by
  have hspine : ReadsSpine inner least value input rest := by
    by_cases hpower : place ≤ value.power
    · rw [operand_of_le hpower] at hspells
      exact readsSpine hinner (hleast.trans hpower) hlength hspells (hends.mono (by omega))
    · rw [operand_of_lt (Nat.lt_of_not_le hpower)] at hspells
      have hchain := ReadsChain.of_atom (reads_atom_bracketed hinner hlength hspells)
      exact .of_operand (hchain.reads hends)
  obtain ⟨first, middle, steps, hfirst, hsteps, hbare⟩ := hspine
  have hoperand : ((unary inner).orElse (chain inner)).Reads input middle (· = first) :=
    ⟨first, hfirst, rfl⟩
  refine reads_here.bind fun start _ => hoperand.bind ?_
  rintro _ rfl
  refine Reads.bind (hsteps.many (refuses_infixStep hends).spanned) ?_
  rintro _ rfl
  exact .pure (hbare start)

end Operators

theorem refuses_expression {input : List Lexeme} (hnext : Next (opens · = false) input)
    (power : Nat) : Refuses (fix operation power) input :=
  (refuses_operation hnext power).fix

/-- Written expressions are read back, by induction on the length of the input. -/
theorem readsBelow_operation (bound : Nat) : ReadsBelow (below operation bound) bound := by
  induction bound using Nat.strong_induction_on with
  | h bound ih =>
      constructor
      · intro value least input rest hlength hspells hends
        have hreads := reads_operation (ih input.length hlength) le_rfl le_rfl hspells hends
        exact hreads.fix.below hlength
      · intro input power hnext
        exact (refuses_expression hnext power).below

theorem reads_expression_operand {value : Expression} {least place : Nat} {input rest : List Lexeme}
    (hleast : least ≤ place) (hspells : Spells (Printer.operand place value) input rest)
    (hends : Ends least rest) : Reads (fix operation least) input rest (·.bare = value.bare) :=
  (reads_operation (readsBelow_operation input.length) hleast le_rfl hspells hends).fix

theorem readsBelow_expression (bound : Nat) : ReadsBelow (fix operation) bound :=
  ⟨fun _ => reads_expression_operand le_rfl, fun power hnext => refuses_expression hnext power⟩

theorem reads_expression {value : Expression} {input rest : List Lexeme}
    (hspells : Spells (Printer.expression value) input rest) (hends : Ends 0 rest) :
    expression.Reads input rest (·.bare = value.bare) :=
  (readsBelow_expression (input.length + 1)).expression (Nat.lt_succ_self _) hspells hends

end BrightScript.Grammar
