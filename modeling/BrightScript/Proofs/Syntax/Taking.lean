import BrightScript.Proofs.Syntax.Reading

/-!
What parsers take off an input. A value that is read is described together with the tokens that it
was read from; there is one lemma for each way of putting parsers together.
-/

namespace BrightScript.Parser

variable {α β : Type}

/-- Whatever a parser reads, it takes tokens off the front of its input for it, and the value is
good for these tokens. -/
def Takes (parser : Parser α) (good : List Lexeme → α → Prop) : Prop :=
  ∀ input value rest, (parser input).result = some (value, rest) →
    ∃ taken, input = taken ++ rest ∧ good taken value

namespace Takes

variable {parser : Parser α} {good fine : List Lexeme → α → Prop}

theorem imp (hparser : parser.Takes good)
    (himp : ∀ taken value, good taken value → fine taken value) : parser.Takes fine := by
  intro input value rest hresult
  obtain ⟨taken, htaken, hgood⟩ := hparser input value rest hresult
  exact ⟨taken, htaken, himp taken value hgood⟩

theorem pure {value : α} (hgood : good [] value) : (pure value : Parser α).Takes good := by
  rintro input _ rest ⟨⟩
  exact ⟨[], rfl, hgood⟩

theorem bind {next : α → Parser β} {fine : List Lexeme → β → Prop} (hfirst : parser.Takes good)
    (hnext : ∀ taken value, good taken value →
      (next value).Takes fun more result => fine (taken ++ more) result) :
    (parser >>= next).Takes fine := by
  intro input result rest hresult
  rw [result_bind, Option.bind_eq_some_iff] at hresult
  obtain ⟨⟨value, middle⟩, hvalue, hresult⟩ := hresult
  obtain ⟨taken, rfl, hgood⟩ := hfirst input value middle hvalue
  obtain ⟨more, rfl, hfine⟩ := hnext taken value hgood middle result rest hresult
  exact ⟨taken ++ more, (List.append_assoc _ _ _).symm, hfine⟩

theorem orElse {second : Parser α} (hfirst : parser.Takes good) (hsecond : second.Takes good) :
    (parser.orElse second).Takes good :=
  Ensures.orElse hfirst hsecond

theorem choice {parsers : List (Parser α)} (hparsers : ∀ parser ∈ parsers, parser.Takes good) :
    (Parser.choice parsers).Takes good :=
  Ensures.choice hparsers

theorem optional {fine : List Lexeme → Option α → Prop}
    (hparser : parser.Takes fun taken value => fine taken (some value)) (hnone : fine [] none) :
    parser.optional.Takes fine :=
  orElse (hparser.bind fun _ _ hfine => pure (by rwa [List.append_nil])) (pure hnone)

theorem satisfy {test : Token → Option α}
    (htest : ∀ lexeme value, test lexeme.token = some value → good [lexeme] value) :
    (Parser.satisfy test).Takes good := by
  intro input value rest hresult
  cases input with
  | nil => cases hresult
  | cons lexeme tail =>
      rw [Parser.satisfy] at hresult
      cases htoken : test lexeme.token with
      | none =>
          rw [htoken] at hresult
          cases hresult
      | some read =>
          rw [htoken] at hresult
          obtain ⟨rfl, rfl⟩ := Prod.mk.inj (Option.some.inj hresult)
          exact ⟨[lexeme], rfl, htest lexeme read htoken⟩

theorem many {fine : List Lexeme → List α → Prop} (hparser : parser.Takes good) (hnil : fine [] [])
    (hcons : ∀ taken value more values, good taken value → fine more values →
      fine (taken ++ more) (value :: values)) : Takes (Parser.many parser) fine := by
  intro input
  induction hlength : input.length using Nat.strong_induction_on generalizing input with
  | h length ih =>
      intro values rest hresult
      rw [result_many] at hresult
      split at hresult
      · cases hresult
        exact ⟨[], rfl, hnil⟩
      · next value middle hvalue =>
          split at hresult
          · next hshorter =>
              rw [Option.map_eq_some_iff] at hresult
              obtain ⟨⟨others, after⟩, hothers, heq⟩ := hresult
              cases heq
              obtain ⟨taken, rfl, hgood⟩ := hparser input value middle hvalue
              obtain ⟨more, rfl, hfine⟩ := ih _ (hlength ▸ hshorter) middle rfl others _ hothers
              exact ⟨taken ++ more, (List.append_assoc _ _ _).symm,
                hcons taken value more others hgood hfine⟩
          · cases hresult
            exact ⟨[], rfl, hnil⟩

theorem spanned (hparser : parser.Takes good) :
    (Parser.spanned parser).Takes fun taken read => read.1 = cover taken ∧ good taken read.2 := by
  intro input read rest hresult
  rw [result_spanned, Option.map_eq_some_iff] at hresult
  obtain ⟨⟨value, after⟩, hvalue, heq⟩ := hresult
  cases heq
  obtain ⟨taken, rfl, hgood⟩ := hparser input value _ hvalue
  refine ⟨taken, rfl, congrArg cover ?_, hgood⟩
  rw [List.length_append, Nat.add_sub_cancel, List.take_left]

theorem fix {ι : Type} {family : (ι → Parser α) → ι → Parser α}
    (hfamily : ∀ inner, (∀ index, (inner index).Takes good) →
      ∀ index, (family inner index).Takes good) (index : ι) :
    Takes (Parser.fix family index) good :=
  Ensures.fix hfamily index

end Takes

/-- A parser takes tokens off the front of its input, whatever it makes of them. -/
def Advances (parser : Parser α) : Prop := parser.Takes fun _ _ => True

namespace Advances

theorem pure (value : α) : (Pure.pure value : Parser α).Advances := Takes.pure trivial

theorem bind {first : Parser α} {next : α → Parser β} (hfirst : first.Advances)
    (hnext : ∀ value, (next value).Advances) : (first >>= next).Advances :=
  Takes.bind hfirst fun _ value _ => hnext value

theorem skip {first : Parser α} {next : α → Parser β} {good : List Lexeme → β → Prop}
    (hfirst : first.Advances)
    (hnext : ∀ taken value, (next value).Takes fun more result => good (taken ++ more) result) :
    (first >>= next).Takes good :=
  Takes.bind hfirst fun taken value _ => hnext taken value

theorem optional {parser : Parser α} (hparser : parser.Advances) : parser.optional.Advances :=
  Takes.optional hparser trivial

theorem satisfy (test : Token → Option α) : (Parser.satisfy test).Advances :=
  Takes.satisfy fun _ _ _ => trivial

theorem many {parser : Parser α} (hparser : parser.Advances) : Advances (Parser.many parser) :=
  Takes.many hparser trivial fun _ _ _ _ _ _ => trivial

theorem separatedBy {item : Parser α} {separator : Parser β} (hitem : item.Advances)
    (hseparator : separator.Advances) : (Parser.separatedBy item separator).Advances := by
  refine hitem.optional.bind fun first => ?_
  cases first with
  | none => exact pure []
  | some first =>
      exact (many (hseparator.bind fun _ => hitem)).bind fun _ => pure _

theorem between {opening closing : Parser β} {parser : Parser α} (hopening : opening.Advances)
    (hparser : parser.Advances) (hclosing : closing.Advances) :
    (Parser.between opening parser closing).Advances :=
  hopening.bind fun _ => hparser.bind fun _ => hclosing.bind fun _ => pure _

end Advances

end BrightScript.Parser
