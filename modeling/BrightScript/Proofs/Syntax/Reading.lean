import Mathlib
import BrightScript.Syntax.Parser

namespace BrightScript

/-- The input begins with the given tokens, wherever they stand in the source text. -/
def Spells (tokens : List Token) (input rest : List Lexeme) : Prop :=
  ∃ taken : List Lexeme, taken.map Lexeme.token = tokens ∧ input = taken ++ rest

namespace Spells

theorem nil_iff {input rest : List Lexeme} : Spells [] input rest ↔ input = rest := by
  constructor
  · rintro ⟨taken, htaken, rfl⟩
    rw [List.map_eq_nil_iff] at htaken
    rw [htaken, List.nil_append]
  · rintro rfl
    exact ⟨[], rfl, rfl⟩

theorem cons_iff {token : Token} {tokens : List Token} {input rest : List Lexeme} :
    Spells (token :: tokens) input rest ↔
      ∃ span tail, input = ⟨token, span⟩ :: tail ∧ Spells tokens tail rest := by
  constructor
  · rintro ⟨taken, htaken, rfl⟩
    obtain ⟨lexeme, others, rfl, rfl, hothers⟩ := List.map_eq_cons_iff.mp htaken
    exact ⟨lexeme.span, others ++ rest, rfl, others, hothers, rfl⟩
  · rintro ⟨span, tail, rfl, taken, rfl, rfl⟩
    exact ⟨⟨token, span⟩ :: taken, rfl, rfl⟩

theorem append_iff {first second : List Token} {input rest : List Lexeme} :
    Spells (first ++ second) input rest ↔
      ∃ middle, Spells first input middle ∧ Spells second middle rest := by
  constructor
  · rintro ⟨taken, htaken, rfl⟩
    obtain ⟨one, other, rfl, hone, hother⟩ := List.map_eq_append_iff.mp htaken
    exact ⟨other ++ rest, ⟨one, hone, List.append_assoc ..⟩, other, hother, rfl⟩
  · rintro ⟨_, ⟨one, rfl, rfl⟩, other, rfl, rfl⟩
    exact ⟨one ++ other, List.map_append, (List.append_assoc ..).symm⟩

theorem enclosed {opening closing : Token} {tokens : List Token} {input rest : List Lexeme}
    (hspells : Spells (opening :: (tokens ++ [closing])) input rest) :
    ∃ first inside last, input = ⟨opening, first⟩ :: inside ∧
      Spells tokens inside (⟨closing, last⟩ :: rest) := by
  obtain ⟨first, inside, rfl, htail⟩ := cons_iff.mp hspells
  obtain ⟨after, htokens, hclosing⟩ := append_iff.mp htail
  obtain ⟨last, tail, rfl, hrest⟩ := cons_iff.mp hclosing
  obtain rfl := nil_iff.mp hrest
  exact ⟨first, inside, last, rfl, htokens⟩

theorem length_eq {tokens : List Token} {input rest : List Lexeme}
    (hspells : Spells tokens input rest) : input.length = tokens.length + rest.length := by
  obtain ⟨taken, rfl, rfl⟩ := hspells
  rw [List.length_append, List.length_map]

end Spells

/-- The next token, if there is one, has a property. -/
def Next (property : Token → Prop) (input : List Lexeme) : Prop :=
  ∀ lexeme ∈ input.head?, property lexeme.token

namespace Next

variable {property other : Token → Prop} {input rest : List Lexeme}

theorem nil : Next property [] := by
  intro lexeme hlexeme
  cases hlexeme

theorem cons {token : Token} {span : Span} (htoken : property token) :
    Next property (⟨token, span⟩ :: rest) := by
  rintro lexeme ⟨⟩
  exact htoken

theorem imp (hnext : Next property input) (himp : ∀ token, property token → other token) :
    Next other input :=
  fun lexeme hlexeme => himp lexeme.token (hnext lexeme hlexeme)

end Next

namespace Parser

variable {α β : Type}

/-- A parser takes the tokens before `rest` off an input, and makes something good of them. -/
def Reads (parser : Parser α) (input rest : List Lexeme) (good : α → Prop) : Prop :=
  ∃ value, (parser input).result = some (value, rest) ∧ good value

/-- A parser fails on an input. -/
def Refuses (parser : Parser α) (input : List Lexeme) : Prop := (parser input).result = none

variable {input middle rest : List Lexeme}

theorem Reads.imp {parser : Parser α} {good fine : α → Prop} (hreads : parser.Reads input rest good)
    (himp : ∀ value, good value → fine value) : parser.Reads input rest fine := by
  obtain ⟨value, hvalue, hgood⟩ := hreads
  exact ⟨value, hvalue, himp value hgood⟩

theorem result_bind (first : Parser α) (next : α → Parser β) (input : List Lexeme) :
    ((first >>= next) input).result =
      (first input).result.bind fun taken => (next taken.1 taken.2).result := by
  change (andThen first next input).result = _
  unfold andThen
  cases first input with
  | mk result failure => cases result <;> rfl

theorem Reads.pure {value : α} {good : α → Prop} (hgood : good value) :
    (pure value : Parser α).Reads input input good :=
  ⟨value, rfl, hgood⟩

theorem Reads.bind {first : Parser α} {next : α → Parser β} {good : α → Prop} {fine : β → Prop}
    (hfirst : first.Reads input middle good)
    (hnext : ∀ value, good value → (next value).Reads middle rest fine) :
    (first >>= next).Reads input rest fine := by
  obtain ⟨value, hvalue, hgood⟩ := hfirst
  obtain ⟨result, hresult, hfine⟩ := hnext value hgood
  refine ⟨result, ?_, hfine⟩
  rw [result_bind, hvalue]
  exact hresult

theorem Refuses.bind {first : Parser α} (hfirst : first.Refuses input) (next : α → Parser β) :
    (first >>= next).Refuses input := by
  rw [Refuses, result_bind, hfirst]
  rfl

theorem Reads.bindRefuses {first : Parser α} {next : α → Parser β} {good : α → Prop}
    (hfirst : first.Reads input middle good)
    (hnext : ∀ value, good value → (next value).Refuses middle) :
    (first >>= next).Refuses input := by
  obtain ⟨value, hvalue, hgood⟩ := hfirst
  rw [Refuses, result_bind, hvalue]
  exact hnext value hgood

theorem result_orElse (first second : Parser α) (input : List Lexeme) :
    (first.orElse second input).result = (first input).result.or (second input).result := by
  unfold orElse
  cases first input with
  | mk result failure => cases result <;> rfl

theorem Reads.orElse {first : Parser α} {good : α → Prop} (hfirst : first.Reads input rest good)
    (second : Parser α) : (first.orElse second).Reads input rest good := by
  obtain ⟨value, hvalue, hgood⟩ := hfirst
  exact ⟨value, by rw [result_orElse, hvalue]; rfl, hgood⟩

theorem Refuses.orElse {first second : Parser α} {good : α → Prop} (hfirst : first.Refuses input)
    (hsecond : second.Reads input rest good) : (first.orElse second).Reads input rest good := by
  obtain ⟨value, hvalue, hgood⟩ := hsecond
  exact ⟨value, by rw [result_orElse, hfirst, hvalue]; rfl, hgood⟩

theorem Refuses.orElseRefuses {first second : Parser α} (hfirst : first.Refuses input)
    (hsecond : second.Refuses input) : (first.orElse second).Refuses input := by
  rw [Refuses, result_orElse, hfirst, hsecond]
  rfl

theorem Reads.choice {parser : Parser α} {parsers : List (Parser α)} {good : α → Prop}
    (hreads : parser.Reads input rest good) :
    (Parser.choice (parser :: parsers)).Reads input rest good := by
  cases parsers with
  | nil => exact hreads
  | cons other parsers => exact hreads.orElse _

theorem Refuses.choice {first second : Parser α} {parsers : List (Parser α)} {good : α → Prop}
    (hfirst : first.Refuses input)
    (hothers : (Parser.choice (second :: parsers)).Reads input rest good) :
    (Parser.choice (first :: second :: parsers)).Reads input rest good :=
  hfirst.orElse hothers

theorem refuses_choice {parsers : List (Parser α)}
    (hparsers : ∀ parser ∈ parsers, parser.Refuses input) : (choice parsers).Refuses input := by
  induction parsers with
  | nil => rfl
  | cons first others ih =>
      rw [List.forall_mem_cons] at hparsers
      cases others with
      | nil => exact hparsers.1
      | cons second others => exact hparsers.1.orElseRefuses (ih hparsers.2)

theorem Reads.optional {parser : Parser α} {good : α → Prop}
    (hreads : parser.Reads input rest good) :
    parser.optional.Reads input rest fun value => ∃ taken, value = some taken ∧ good taken := by
  refine Reads.orElse (hreads.bind fun taken hgood => ?_) _
  exact .pure ⟨taken, rfl, hgood⟩

theorem Refuses.optional {parser : Parser α} (hrefuses : parser.Refuses input) :
    parser.optional.Reads input input (· = none) :=
  (hrefuses.bind _).orElse ⟨none, rfl, rfl⟩

theorem reads_satisfy {test : Token → Option α} {token : Token} {span : Span} {value : α}
    (htest : test token = some value) :
    (satisfy test).Reads (⟨token, span⟩ :: rest) rest (· = value) :=
  ⟨value, by simp only [satisfy, htest], rfl⟩

theorem refuses_satisfy {test : Token → Option α} (htest : Next (test · = none) input) :
    (satisfy test).Refuses input := by
  cases input with
  | nil => rfl
  | cons lexeme rest =>
      have hnone : test lexeme.token = none := htest lexeme rfl
      simp only [Refuses, satisfy, hnone]

theorem reads_expect {token : Token} {span : Span} :
    (expect token).Reads (⟨token, span⟩ :: rest) rest fun _ => True :=
  (reads_satisfy (if_pos rfl)).imp fun _ _ => trivial

theorem refuses_expect {token : Token} (hnext : Next (· ≠ token) input) :
    (expect token).Refuses input :=
  refuses_satisfy (hnext.imp fun _ hdiffers => if_neg hdiffers)

theorem reads_atEnd : atEnd.Reads [] [] fun _ => True := ⟨(), rfl, trivial⟩

/-- A parser takes something off an input, again and again, up to a rest. -/
inductive Steps (parser : Parser α) : List Lexeme → List α → List Lexeme → Prop
  | nil {input : List Lexeme} : Steps parser input [] input
  | cons {input middle rest : List Lexeme} {value : α} {values : List α}
      (htaken : (parser input).result = some (value, middle))
      (hshorter : middle.length < input.length) (hothers : Steps parser middle values rest) :
      Steps parser input (value :: values) rest

theorem Steps.concat {parser : Parser α} {values : List α} {good : α → Prop}
    (hsteps : Steps parser input values middle) (hlast : parser.Reads middle rest good)
    (hshorter : rest.length < middle.length) :
    ∃ value, good value ∧ Steps parser input (values ++ [value]) rest := by
  obtain ⟨value, hvalue, hgood⟩ := hlast
  refine ⟨value, hgood, ?_⟩
  induction hsteps with
  | nil => exact .cons hvalue hshorter .nil
  | cons htaken hless _ ih => exact .cons htaken hless (ih hshorter hvalue)

theorem result_many (parser : Parser α) (input : List Lexeme) :
    (many parser input).result =
      match (parser input).result with
      | none => some ([], input)
      | some (value, rest) =>
        if rest.length < input.length then
          (many parser rest).result.map fun taken => (value :: taken.1, taken.2)
        else some ([], input) := by
  rw [many]
  cases parser input with
  | mk result failure =>
      cases result with
      | none => rfl
      | some taken =>
          dsimp only
          split <;> rfl

theorem Refuses.many {parser : Parser α} (hrefuses : parser.Refuses input) :
    Reads (many parser) input input (· = []) :=
  ⟨[], by rw [result_many, hrefuses], rfl⟩

theorem Reads.many {parser : Parser α} {good : α → Prop} {fine : List α → Prop}
    (hfirst : parser.Reads input middle good) (hshorter : middle.length < input.length)
    (hothers : Reads (Parser.many parser) middle rest fine) :
    Reads (Parser.many parser) input rest fun values =>
      ∃ value others, values = value :: others ∧ good value ∧ fine others := by
  obtain ⟨value, hvalue, hgood⟩ := hfirst
  obtain ⟨others, hothers, hfine⟩ := hothers
  refine ⟨value :: others, ?_, value, others, rfl, hgood, hfine⟩
  rw [result_many, hvalue]
  dsimp only
  rw [if_pos hshorter, hothers]
  rfl

theorem Steps.many {parser : Parser α} {values : List α} (hsteps : Steps parser input values rest)
    (hrefuses : parser.Refuses rest) :
    Reads (Parser.many parser) input rest (· = values) := by
  refine ⟨values, ?_, rfl⟩
  induction hsteps with
  | nil => rw [result_many, hrefuses]
  | cons htaken hshorter _ ih =>
      rw [result_many, htaken]
      dsimp only
      rw [if_pos hshorter, ih hrefuses]
      rfl

theorem result_spanned (parser : Parser α) (input : List Lexeme) :
    (spanned parser input).result = (parser input).result.map fun taken =>
      ((cover (input.take (input.length - taken.2.length)), taken.1), taken.2) := by
  unfold spanned
  cases parser input with
  | mk result failure => cases result <;> rfl

theorem Reads.spanned {parser : Parser α} {good : α → Prop}
    (hreads : parser.Reads input rest good) :
    (spanned parser).Reads input rest fun taken => good taken.2 := by
  obtain ⟨value, hvalue, hgood⟩ := hreads
  exact ⟨_, by rw [result_spanned, hvalue]; rfl, hgood⟩

theorem Refuses.spanned {parser : Parser α} (hrefuses : parser.Refuses input) :
    (spanned parser).Refuses input := by
  rw [Refuses, result_spanned, hrefuses]
  rfl

theorem Reads.between {opening closing : Parser β} {parser : Parser α} {good : α → Prop}
    {inside after : List Lexeme} (hopening : opening.Reads input inside fun _ => True)
    (hparser : parser.Reads inside after good)
    (hclosing : closing.Reads after rest fun _ => True) :
    (between opening parser closing).Reads input rest good :=
  hopening.bind fun _ _ => hparser.bind fun _ hgood => hclosing.bind fun _ _ => .pure hgood

theorem Refuses.between {opening : Parser β} (hopening : opening.Refuses input) (parser : Parser α)
    (closing : Parser β) : (between opening parser closing).Refuses input :=
  hopening.bind _

/-- A recursive family of parsers on inputs that are shorter than a bound. -/
def below {ι : Type} (family : (ι → Parser α) → ι → Parser α) (bound : Nat) (index : ι) :
    Parser α :=
  fun input => if input.length < bound then fix family index input else fail input

section Recursion

variable {ι : Type} {family : (ι → Parser α) → ι → Parser α} {index : ι} {bound : Nat}
  {good : α → Prop}

theorem fix_eq : fix family index input = family (below family input.length) index input := by
  rw [fix]
  rfl

theorem Reads.fix (hreads : (family (below family input.length) index).Reads input rest good) :
    Reads (fix family index) input rest good := by
  unfold Reads at hreads ⊢
  rwa [fix_eq]

theorem Refuses.fix (hrefuses : (family (below family input.length) index).Refuses input) :
    Refuses (fix family index) input := by
  unfold Refuses at hrefuses ⊢
  rwa [fix_eq]

theorem Reads.below (hreads : Reads (Parser.fix family index) input rest good)
    (hlength : input.length < bound) : (below family bound index).Reads input rest good := by
  unfold Reads Parser.below at *
  rwa [if_pos hlength]

theorem Refuses.below (hrefuses : Refuses (Parser.fix family index) input) :
    (below family bound index).Refuses input := by
  unfold Refuses Parser.below at *
  split
  · exact hrefuses
  · rfl

end Recursion

/-- Whatever a parser reads stands in a relation to its input and to the rest. -/
def Ensures (parser : Parser α) (post : List Lexeme → α → List Lexeme → Prop) : Prop :=
  ∀ input value rest, (parser input).result = some (value, rest) → post input value rest

namespace Ensures

variable {parser second : Parser α} {post : List Lexeme → α → List Lexeme → Prop}

theorem orElse (hfirst : parser.Ensures post) (hsecond : second.Ensures post) :
    (parser.orElse second).Ensures post := by
  intro input value rest hresult
  rw [result_orElse, Option.or_eq_some_iff] at hresult
  rcases hresult with hresult | ⟨-, hresult⟩
  · exact hfirst input value rest hresult
  · exact hsecond input value rest hresult

theorem choice {parsers : List (Parser α)} (hparsers : ∀ parser ∈ parsers, parser.Ensures post) :
    (Parser.choice parsers).Ensures post := by
  induction parsers with
  | nil => rintro input value rest ⟨⟩
  | cons first others ih =>
      rw [List.forall_mem_cons] at hparsers
      cases others with
      | nil => exact hparsers.1
      | cons second others => exact hparsers.1.orElse (ih hparsers.2)

/-- What a recursive family reads is in order if its members keep to that. The induction is on the
length of the input: the family calls itself on shorter inputs only. -/
theorem fix {ι : Type} {family : (ι → Parser α) → ι → Parser α}
    (hfamily : ∀ inner, (∀ index, (inner index).Ensures post) →
      ∀ index, (family inner index).Ensures post) (index : ι) :
    Ensures (Parser.fix family index) post := by
  intro input
  induction hlength : input.length using Nat.strong_induction_on generalizing input index with
  | h length ih =>
      intro value rest hresult
      rw [fix_eq] at hresult
      refine hfamily _ (fun next inside => ?_) index input value rest hresult
      intro taken after hinside
      unfold below at hinside
      split at hinside
      · next hshorter => exact ih _ (hlength ▸ hshorter) next inside rfl taken after hinside
      · cases hinside

end Ensures

end Parser

end BrightScript
