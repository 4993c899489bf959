import BrightScript.Proofs.Syntax.Reading
import BrightScript.Proofs.Token.LetterCase

namespace BrightScript

namespace Failure

/-- The failure with all identifiers in lower case. -/
def lower (failure : Failure) : Failure := ⟨failure.rest.map Lexeme.lower, failure.library⟩

theorem position_lower (failure : Failure) : failure.lower.position = failure.position := by
  rw [position, position, lower, List.head?_map, Option.map_map]
  rfl

theorem further_lower (left right : Failure) :
    (left.further right).lower = left.lower.further right.lower := by
  have hsame : (if left.library.isSome then left else right).lower =
      if left.lower.library.isSome then left.lower else right.lower := apply_ite lower _ _ _
  simp only [further, position_lower, ← hsame]
  cases left.position <;> cases right.position <;> dsimp only
  split
  · rfl
  · split <;> rfl

theorem furtherOf_lower (left right : Option Failure) :
    (furtherOf left right).map lower = furtherOf (left.map lower) (right.map lower) := by
  cases left <;> cases right <;> simp [furtherOf, further_lower]

end Failure

namespace Reply

/-- Two replies are the same but for the letter case of identifiers, as far as their values are
shown. -/
inductive Alike {α γ : Type} (shown : α → γ) : Reply α → Reply α → Prop
  | refused {failure failure' : Option Failure}
      (hfailure : failure.map Failure.lower = failure'.map Failure.lower) :
      Alike shown ⟨none, failure⟩ ⟨none, failure'⟩
  | taken {value value' : α} {rest rest' : List Lexeme} {failure failure' : Option Failure}
      (hvalue : shown value = shown value')
      (hrest : rest.map Lexeme.lower = rest'.map Lexeme.lower)
      (hfailure : failure.map Failure.lower = failure'.map Failure.lower) :
      Alike shown ⟨some (value, rest), failure⟩ ⟨some (value', rest'), failure'⟩

theorem Alike.behind {α γ : Type} {shown : α → γ} {reply reply' : Reply α}
    (hreply : Alike shown reply reply') {failure failure' : Option Failure}
    (hfailure : failure.map Failure.lower = failure'.map Failure.lower) :
    Alike shown ⟨reply.result, Failure.furtherOf failure reply.failure⟩
      ⟨reply'.result, Failure.furtherOf failure' reply'.failure⟩ := by
  have hfurther {later later' : Option Failure}
      (hlater : later.map Failure.lower = later'.map Failure.lower) :
      (Failure.furtherOf failure later).map Failure.lower =
        (Failure.furtherOf failure' later').map Failure.lower := by
    rw [Failure.furtherOf_lower, Failure.furtherOf_lower, hfailure, hlater]
  cases hreply with
  | refused hlater => exact .refused (hfurther hlater)
  | taken hvalue hrest hlater => exact .taken hvalue hrest (hfurther hlater)

theorem Alike.cons {α γ : Type} {shown : α → γ} {value value' : α} {reply reply' : Reply (List α)}
    (hvalue : shown value = shown value') (hreply : Alike (List.map shown) reply reply') :
    Alike (List.map shown)
      ⟨reply.result.map fun (values, rest) => (value :: values, rest), reply.failure⟩
      ⟨reply'.result.map fun (values, rest) => (value' :: values, rest), reply'.failure⟩ := by
  cases hreply with
  | refused hfailure => exact .refused hfailure
  | taken hvalues hrest hfailure =>
      refine .taken ?_ hrest hfailure
      rw [List.map_cons, List.map_cons, hvalue, hvalues]

end Reply

namespace Parser

variable {α β γ δ : Type}

theorem length_eq {input others : List Lexeme}
    (hinput : input.map Lexeme.lower = others.map Lexeme.lower) :
    input.length = others.length := by
  simpa using congrArg List.length hinput

theorem cover_lower (lexemes : List Lexeme) : cover (lexemes.map Lexeme.lower) = cover lexemes := by
  simp only [cover, List.head?_map, List.getLast?_map, Option.map_map]
  rfl

theorem cover_eq {input others : List Lexeme}
    (hinput : input.map Lexeme.lower = others.map Lexeme.lower) : cover input = cover others := by
  rw [← cover_lower, hinput, cover_lower]

/-- Two parsers make the same of inputs that differ in the letter case of identifiers only, as far
as their values are shown. The two are mostly the same parser; they differ where it depends on what
was read before. -/
def Alike (shown : α → γ) (parser other : Parser α) : Prop :=
  ∀ input others, input.map Lexeme.lower = others.map Lexeme.lower →
    Reply.Alike shown (parser input) (other others)

/-- A parser does not look at the letter case of identifiers, as far as its values are shown. -/
abbrev Caseless (shown : α → γ) (parser : Parser α) : Prop := Alike shown parser parser

namespace Alike

variable {parser other : Parser α} {shown : α → γ}

theorem imp {visible : α → δ} (h : Alike shown parser other)
    (himp : ∀ value value', shown value = shown value' → visible value = visible value') :
    Alike visible parser other := by
  intro input others hinput
  have hreply := h input others hinput
  generalize parser input = reply, other others = reply' at hreply ⊢
  cases hreply with
  | refused hfailure => exact .refused hfailure
  | taken hvalue hrest hfailure => exact .taken (himp _ _ hvalue) hrest hfailure

theorem pure {value : α} {value' : α} (hvalue : shown value = shown value') :
    Alike shown (pure value : Parser α) (pure value') :=
  fun _ _ hinput => .taken hvalue hinput rfl

theorem bind {next next' : α → Parser β} {visible : β → δ} (hfirst : Alike shown parser other)
    (hnext : ∀ value value', shown value = shown value' →
      Alike visible (next value) (next' value')) :
    Alike visible (parser >>= next) (other >>= next') := by
  intro input others hinput
  have hreply := hfirst input others hinput
  change Reply.Alike visible (andThen parser next input) (andThen other next' others)
  unfold andThen
  generalize parser input = reply, other others = reply' at hreply ⊢
  cases hreply with
  | refused hfailure => exact .refused hfailure
  | @taken value value' rest rest' _ _ hvalue hrest hfailure =>
      exact (hnext value value' hvalue rest rest' hrest).behind hfailure

theorem orElse {second second' : Parser α} (hfirst : Alike shown parser other)
    (hsecond : Alike shown second second') :
    Alike shown (parser.orElse second) (other.orElse second') := by
  intro input others hinput
  have hreply := hfirst input others hinput
  unfold Parser.orElse
  generalize parser input = reply, other others = reply' at hreply ⊢
  cases hreply with
  | refused hfailure => exact (hsecond input others hinput).behind hfailure
  | taken hvalue hrest hfailure => exact .taken hvalue hrest hfailure

theorem fail : Caseless shown Parser.fail := fun _ _ hinput =>
  .refused (congrArg (fun rest => some (Failure.mk rest none)) hinput)

theorem optional (h : Alike shown parser other) :
    Alike (Option.map shown) parser.optional other.optional :=
  orElse (bind h fun _ _ hvalue => pure (congrArg some hvalue)) (pure rfl)

theorem satisfy {test : Token → Option α}
    (htest : ∀ token : Token, (test token.lower).map shown = (test token).map shown) :
    Caseless shown (Parser.satisfy test) := by
  intro input others hinput
  cases input with
  | nil =>
      obtain rfl := List.map_eq_nil_iff.mp hinput.symm
      exact .refused rfl
  | cons lexeme rest =>
      obtain ⟨lexeme', rest', rfl, hlexeme, hrest⟩ := List.map_eq_cons_iff.mp hinput.symm
      have htoken : (test lexeme.token).map shown = (test lexeme'.token).map shown := by
        rw [← htest lexeme.token, ← htest lexeme'.token]
        exact congrArg (fun lexeme => (test lexeme.token).map shown) hlexeme.symm
      unfold Parser.satisfy
      dsimp only
      generalize test lexeme.token = found, test lexeme'.token = found' at htoken ⊢
      cases found with
      | none =>
          obtain rfl := Option.map_eq_none_iff.mp htoken.symm
          exact .refused (congrArg (fun rest => some (Failure.mk rest none)) hinput)
      | some value =>
          obtain ⟨value', rfl, hvalue⟩ := Option.map_eq_some_iff.mp htoken.symm
          exact .taken hvalue.symm hrest.symm rfl

theorem many (h : Alike shown parser other) :
    Alike (List.map shown) (Parser.many parser) (Parser.many other) := by
  intro input
  induction hlength : input.length using Nat.strong_induction_on generalizing input with
  | h length ih =>
      intro others hinput
      have hreply := h input others hinput
      unfold Parser.many
      generalize parser input = reply, other others = reply' at hreply ⊢
      cases hreply with
      | refused hfailure => exact .taken rfl hinput hfailure
      | @taken value value' rest rest' _ _ hvalue hrest hfailure =>
          dsimp only
          rw [← length_eq hinput, ← length_eq hrest]
          split
          · rename_i hshorter
            have hlater := ih rest.length (hlength ▸ hshorter) rest rfl rest' hrest
            generalize Parser.many parser rest = later, Parser.many other rest' = later' at hlater ⊢
            exact (hlater.cons hvalue).behind hfailure
          · exact .taken rfl hinput hfailure

theorem spanned (h : Alike shown parser other) :
    Alike (Prod.map id shown) (Parser.spanned parser) (Parser.spanned other) := by
  intro input others hinput
  have hreply := h input others hinput
  unfold Parser.spanned
  generalize parser input = reply, other others = reply' at hreply ⊢
  cases hreply with
  | refused hfailure => exact .refused hfailure
  | @taken value value' rest rest' _ _ hvalue hrest hfailure =>
      refine .taken ?_ hrest hfailure
      have hcover : cover (input.take (input.length - rest.length)) =
          cover (others.take (others.length - rest'.length)) := by
        rw [length_eq hinput, length_eq hrest]
        exact cover_eq (by rw [List.map_take, hinput, List.map_take])
      rw [Prod.map, Prod.map, hvalue, hcover]

theorem fix {ι : Type} {family family' : (ι → Parser α) → ι → Parser α}
    (hfamily : ∀ inner inner', (∀ index, Alike shown (inner index) (inner' index)) →
      ∀ index, Alike shown (family inner index) (family' inner' index)) (index : ι) :
    Alike shown (Parser.fix family index) (Parser.fix family' index) := by
  intro input
  induction hlength : input.length using Nat.strong_induction_on generalizing input index with
  | h length ih =>
      intro others hinput
      rw [fix_eq, fix_eq]
      refine hfamily _ _ (fun next inside insides hinside => ?_) index input others hinput
      unfold below
      -- the inputs are equally long, so that both families call themselves or neither does
      rw [← length_eq hinput, ← length_eq hinside]
      split
      · rename_i hshorter
        exact ih inside.length (hlength ▸ hshorter) next inside rfl insides hinside
      · exact fail inside insides hinside

theorem expect {token : Token} (htoken : ∀ name, token ≠ .identifier name) :
    Caseless id (Parser.expect token) := by
  refine satisfy fun found => ?_
  simp only [Token.lower_eq_iff htoken]

theorem symbol (mark : Symbol) : Caseless id (Parser.symbol mark) := expect nofun

theorem keyword (word : Keyword) : Caseless id (Parser.keyword word) := expect nofun

theorem newline : Caseless id (Parser.expect .newline) := expect nofun

theorem identifier : Caseless Name.key Parser.identifier := by
  refine satisfy fun token => ?_
  cases token with
  | identifier name => exact congrArg some (Name.key_key name)
  | _ => rfl

theorem text : Caseless id Parser.text := by
  refine satisfy fun token => ?_
  cases token <;> rfl

theorem atEnd : Caseless id Parser.atEnd := by
  intro input others hinput
  cases input with
  | nil =>
      obtain rfl := List.map_eq_nil_iff.mp hinput.symm
      exact .taken rfl rfl rfl
  | cons lexeme rest =>
      obtain ⟨lexeme', rest', rfl, -, -⟩ := List.map_eq_cons_iff.mp hinput.symm
      exact .refused (congrArg (fun rest => some (Failure.mk rest none)) hinput)

theorem many1 (h : Alike shown parser other) :
    Alike (List.map shown) (Parser.many1 parser) (Parser.many1 other) := by
  refine h.bind fun value value' hvalue => bind h.many fun values values' hvalues => pure ?_
  rw [List.map_cons, List.map_cons, hvalue, hvalues]

section Sequences

variable {mark mark' : Parser β} {visible : β → δ}

theorem separatedBy (h : Alike shown parser other) (hmark : Alike visible mark mark') :
    Alike (List.map shown) (Parser.separatedBy parser mark) (Parser.separatedBy other mark') := by
  refine h.optional.bind fun first first' hfirst => ?_
  cases first with
  | none =>
      obtain rfl := Option.map_eq_none_iff.mp hfirst.symm
      exact pure rfl
  | some value =>
      obtain ⟨value', rfl, hvalue⟩ := Option.map_eq_some_iff.mp hfirst.symm
      have hothers := many (hmark.bind fun _ _ _ => h)
      refine bind hothers fun values values' hvalues => pure ?_
      rw [List.map_cons, List.map_cons, hvalue, hvalues]

theorem separatedByTrailing (h : Alike shown parser other) (hmark : Alike visible mark mark') :
    Alike (List.map shown) (Parser.separatedByTrailing parser mark)
      (Parser.separatedByTrailing other mark') := by
  refine (h.separatedBy hmark).bind fun items items' hitems => ?_
  have hempty : items.isEmpty = items'.isEmpty := by
    rw [← List.isEmpty_map (f := shown), hitems, List.isEmpty_map]
  rw [hempty]
  split
  · exact hmark.optional.bind fun _ _ _ => pure hitems
  · exact pure hitems

theorem between {closing closing' : Parser β} {noticed : β → δ}
    (hopening : Alike visible mark mark') (h : Alike shown parser other)
    (hclosing : Alike noticed closing closing') :
    Alike shown (Parser.between mark parser closing) (Parser.between mark' other closing') :=
  hopening.bind fun _ _ _ => h.bind fun _ _ hvalue => hclosing.bind fun _ _ _ => pure hvalue

end Sequences

theorem spanned_bind (shown : α → γ) {make make' : Span × α → β} {visible : β → δ}
    (h : Alike shown parser other)
    (hmake : ∀ span value value', shown value = shown value' →
      visible (make (span, value)) = visible (make' (span, value'))) :
    Alike visible (do let read ← Parser.spanned parser; return make read)
      (do let read ← Parser.spanned other; return make' read) := by
  refine h.spanned.bind ?_
  rintro ⟨span, value⟩ ⟨span', value'⟩ hread
  obtain ⟨rfl, hvalue⟩ := Prod.mk.inj hread
  exact pure (hmake _ value value' hvalue)

end Alike

end Parser

end BrightScript
