import BrightScript.Proofs.Syntax.Taking

/-!
Reading in front of more tokens. A parser that is to read an input in the same way when more tokens
stand behind it must not be led on by them. Whether it is depends on the rest that it leaves: the
rules go backwards, from what a rest looks like to what the input in front of it looks like, and
there is one for each way of putting parsers together.
-/

namespace BrightScript

/-- The input begins with a token of a kind, and what stands behind it is of a kind too. -/
inductive Begins (kind : Token → Prop) (behind : List Lexeme → Prop) : List Lexeme → Prop
  | intro {lexeme : Lexeme} {tail : List Lexeme} (hkind : kind lexeme.token)
      (hbehind : behind tail) : Begins kind behind (lexeme :: tail)

/-- The input begins with a token of a kind. -/
def Starts (kind : Token → Prop) : List Lexeme → Prop := Begins kind fun _ => True

namespace Begins

variable {kind fine : Token → Prop} {behind : List Lexeme → Prop} {input more : List Lexeme}

theorem starts (hbegins : Begins kind behind input) (himp : ∀ token, kind token → fine token) :
    Starts fine input := by
  obtain ⟨hkind, -⟩ := hbegins
  exact ⟨himp _ hkind, trivial⟩

theorem ne_nil (hbegins : Begins kind behind input) : input ≠ [] := by
  obtain ⟨-, -⟩ := hbegins
  exact List.cons_ne_nil _ _

theorem append (hbegins : Begins kind behind input) (more : List Lexeme) :
    Starts kind (input ++ more) := by
  obtain ⟨hkind, -⟩ := hbegins
  exact ⟨hkind, trivial⟩

theorem next (hbegins : Begins kind behind input) : Next kind input := by
  obtain ⟨hkind, -⟩ := hbegins
  exact .cons hkind

end Begins

theorem Next.append {kind : Token → Prop} {input more : List Lexeme} (hinput : Next kind input)
    (hmore : Next kind more) : Next kind (input ++ more) := by
  cases input with
  | nil => exact hmore
  | cons lexeme tail => exact .cons (hinput lexeme rfl)

namespace Parser

variable {α β : Type}

/-- Where `parser` reads an input and leaves a rest of one kind, the input is of another kind, and
`wider` reads it in the same way in front of more tokens. The two parsers are mostly the same; they
differ inside of recursions, which are given a longer input to go down on. -/
def Extends (more : List Lexeme) (parser wider : Parser α) (before after : List Lexeme → Prop) :
    Prop :=
  ∀ input value rest, (parser input).result = some (value, rest) → after rest →
    before input ∧ (wider (input ++ more)).result = some (value, rest ++ more)

theorem not_refuses_of_result {parser : Parser α} {input : List Lexeme} {reply : α × List Lexeme}
    (hresult : (parser input).result = some reply) : ¬parser.Refuses input := by
  rw [Refuses, hresult]
  exact Option.some_ne_none _

theorem refuses_bind_iff {first : Parser α} {next : α → Parser β} {input rest : List Lexeme}
    {value : α} (hfirst : (first input).result = some (value, rest)) :
    (first >>= next).Refuses input ↔ (next value).Refuses rest := by
  rw [Refuses, result_bind, hfirst]
  rfl

theorem refuses_satisfy_iff {test : Token → Option α} {input : List Lexeme} :
    (satisfy test).Refuses input ↔ Next (test · = none) input := by
  refine ⟨fun hrefuses lexeme hlexeme => by_contra fun htest => ?_, refuses_satisfy⟩
  obtain ⟨value, hvalue⟩ := Option.ne_none_iff_exists'.mp htest
  obtain ⟨tail, rfl⟩ : ∃ tail, input = lexeme :: tail := List.head?_eq_some_iff.mp hlexeme
  exact not_refuses_of_result (reads_satisfy hvalue).choose_spec.1 hrefuses

theorem Refuses.satisfy_append {test : Token → Option α} {input more : List Lexeme}
    (hrefuses : (satisfy test).Refuses input) (hempty : input = [] → Next (test · = none) more) :
    (satisfy test).Refuses (input ++ more) := by
  rw [refuses_satisfy_iff] at hrefuses ⊢
  cases input with
  | nil => exact hempty rfl
  | cons lexeme tail => exact .cons (hrefuses lexeme rfl)

theorem not_refuses_many (parser : Parser α) (input : List Lexeme) :
    ¬Refuses (many parser) input := by
  induction hlength : input.length using Nat.strong_induction_on generalizing input with
  | h length ih =>
      intro hrefuses
      change (many parser input).result = none at hrefuses
      rw [result_many] at hrefuses
      split at hrefuses
      · cases hrefuses
      · split at hrefuses
        · next hshorter =>
            rw [Option.map_eq_none_iff] at hrefuses
            exact ih _ (hlength ▸ hshorter) _ rfl hrefuses
        · cases hrefuses

theorem Steps.append {parser : Parser α} {input middle rest : List Lexeme} {values others : List α}
    (hsteps : Steps parser input values middle) (hothers : Steps parser middle others rest) :
    Steps parser input (values ++ others) rest := by
  induction hsteps with
  | nil => exact hothers
  | cons htaken hshorter _ ih => exact .cons htaken hshorter (ih hothers)

theorem steps_of_many {parser : Parser α} (hparser : parser.Takes fun taken _ => taken ≠ [])
    {input rest : List Lexeme} {values : List α}
    (hmany : (many parser input).result = some (values, rest)) :
    Steps parser input values rest ∧ parser.Refuses rest := by
  induction hlength : input.length using Nat.strong_induction_on generalizing input values with
  | h length ih =>
      rw [result_many] at hmany
      split at hmany
      · next hnone =>
          cases hmany
          exact ⟨.nil, hnone⟩
      · next value middle hvalue =>
          obtain ⟨taken, rfl, hne⟩ := hparser input value middle hvalue
          -- the parser never stops for having taken nothing
          have hshorter : middle.length < (taken ++ middle).length := by
            rw [List.length_append]
            exact Nat.lt_add_of_pos_left (List.length_pos_of_ne_nil hne)
          rw [if_pos hshorter, Option.map_eq_some_iff] at hmany
          obtain ⟨⟨others, after⟩, hothers, heq⟩ := hmany
          cases heq
          obtain ⟨hsteps, hrefuses⟩ := ih _ (hlength ▸ hshorter) hothers rfl
          exact ⟨.cons hvalue hshorter hsteps, hrefuses⟩

namespace Extends

variable {more : List Lexeme} {parser wider : Parser α}
  {before after middle other : List Lexeme → Prop}

theorem imp {before' after' : List Lexeme → Prop}
    (hparser : Extends more parser wider before after)
    (hbefore : ∀ input, before input → before' input) (hafter : ∀ rest, after' rest → after rest) :
    Extends more parser wider before' after' := by
  intro input value rest hresult hrest
  obtain ⟨hinput, hwider⟩ := hparser input value rest hresult (hafter rest hrest)
  exact ⟨hbefore input hinput, hwider⟩

theorem always (hparser : Extends more parser wider before fun _ => True)
    (after : List Lexeme → Prop) : Extends more parser wider before after :=
  hparser.imp (fun _ => id) fun _ _ => trivial

theorem reads (hparser : Extends more parser wider before after) :
    Extends more parser wider (fun input => ∃ value rest,
      (parser input).result = some (value, rest) ∧ after rest) after := by
  intro input value rest hresult hrest
  exact ⟨⟨value, rest, hresult, hrest⟩, (hparser input value rest hresult hrest).2⟩

theorem pure (value : α) (after : List Lexeme → Prop) :
    Extends more (Pure.pure value) (Pure.pure value) after after := by
  rintro input _ rest ⟨⟩ hrest
  exact ⟨hrest, rfl⟩

theorem bind {next widerNext : α → Parser β} (hfirst : Extends more parser wider before middle)
    (hnext : ∀ value, Extends more (next value) (widerNext value) middle after) :
    Extends more (parser >>= next) (wider >>= widerNext) before after := by
  intro input result rest hresult hrest
  rw [result_bind, Option.bind_eq_some_iff] at hresult
  obtain ⟨⟨value, middle⟩, hvalue, hresult⟩ := hresult
  obtain ⟨hmiddle, hwiderNext⟩ := hnext value middle result rest hresult hrest
  obtain ⟨hinput, hwider⟩ := hfirst input value middle hvalue hmiddle
  refine ⟨hinput, ?_⟩
  rw [result_bind, hwider]
  exact hwiderNext

theorem orElse_of_refuses {second widerSecond : Parser α}
    (hfirst : Extends more parser wider before after)
    (hsecond : Extends more second widerSecond other after)
    (hrefuses : ∀ input value rest, parser.Refuses input →
      (second input).result = some (value, rest) → after rest → wider.Refuses (input ++ more)) :
    Extends more (parser.orElse second) (wider.orElse widerSecond)
      (fun input => before input ∨ other input) after := by
  intro input value rest hresult hrest
  rw [result_orElse, Option.or_eq_some_iff] at hresult
  rcases hresult with hresult | ⟨hnone, hresult⟩
  · obtain ⟨hinput, hwider⟩ := hfirst input value rest hresult hrest
    exact ⟨.inl hinput, by rw [result_orElse, hwider, Option.some_or]⟩
  · obtain ⟨hinput, hwider⟩ := hsecond input value rest hresult hrest
    refine ⟨.inr hinput, ?_⟩
    rw [result_orElse, hrefuses input value rest hnone hresult hrest, Option.none_or, hwider]

theorem orElse {second widerSecond : Parser α} (hfirst : Extends more parser wider before after)
    (hsecond : Extends more second widerSecond other after)
    (hrefuses : ∀ input, other input → wider.Refuses (input ++ more)) :
    Extends more (parser.orElse second) (wider.orElse widerSecond)
      (fun input => before input ∨ other input) after :=
  hfirst.orElse_of_refuses hsecond fun input value rest _ hresult hrest =>
    hrefuses input (hsecond input value rest hresult hrest).1

theorem orElse_starts {second widerSecond : Parser α} {kind fine : Token → Prop}
    (hfirst : Extends more parser wider (Starts kind) after)
    (hsecond : Extends more second widerSecond (Starts fine) after)
    (hrefuses : ∀ input, Next fine input → wider.Refuses input) :
    Extends more (parser.orElse second) (wider.orElse widerSecond)
      (Starts fun token => kind token ∨ fine token) after := by
  refine (hfirst.orElse hsecond fun input hinput => ?_).imp ?_ fun _ => id
  · exact hrefuses _ (hinput.append more).next
  · rintro input (hinput | hinput)
    · exact hinput.starts fun _ => .inl
    · exact hinput.starts fun _ => .inr

theorem optional (hparser : Extends more parser wider before after)
    (hrefuses : ∀ rest, after rest → parser.Refuses rest → wider.Refuses (rest ++ more)) :
    Extends more parser.optional wider.optional (fun input => before input ∨ after input)
      after := by
  refine orElse_of_refuses (hparser.bind fun _ => pure _ _) (pure _ _) ?_
  rintro input _ rest hnone ⟨⟩ hrest
  refine (hrefuses input hrest ?_).bind _
  by_contra hreads
  obtain ⟨⟨value, tail⟩, hresult⟩ := Option.ne_none_iff_exists'.mp hreads
  exact nomatch (refuses_bind_iff hresult).mp hnone

theorem satisfy (test : Token → Option α) (after : List Lexeme → Prop) :
    Extends more (Parser.satisfy test) (Parser.satisfy test)
      (Begins (fun token => test token ≠ none) after) after := by
  intro input value rest hresult hrest
  have htakes : (Parser.satisfy test).Takes fun taken value =>
      ∃ lexeme, taken = [lexeme] ∧ test lexeme.token = some value :=
    .satisfy fun lexeme value htest => ⟨lexeme, rfl, htest⟩
  obtain ⟨taken, rfl, lexeme, rfl, htest⟩ := htakes input value rest hresult
  refine ⟨.intro (by rw [htest]; exact Option.some_ne_none _) hrest, ?_⟩
  rw [List.singleton_append, List.cons_append, Parser.satisfy, htest]

theorem expect (token : Token) (after : List Lexeme → Prop) :
    Extends more (Parser.expect token) (Parser.expect token) (Begins (· = token) after) after := by
  refine (satisfy _ after).imp ?_ fun _ => id
  rintro _ ⟨htoken, hafter⟩
  exact ⟨by simpa using htoken, hafter⟩

theorem satisfy_starts {test : Token → Option α} {kind : Token → Prop}
    (hkind : ∀ token, test token ≠ none → kind token) (after : List Lexeme → Prop) :
    Extends more (Parser.satisfy test) (Parser.satisfy test) (Starts kind) after :=
  (satisfy test after).imp (fun _ hbegins => hbegins.starts hkind) fun _ => id

theorem expect_starts (token : Token) (after : List Lexeme → Prop) :
    Extends more (Parser.expect token) (Parser.expect token) (Starts (· = token)) after :=
  (expect token after).imp (fun _ hbegins => hbegins.starts fun _ => id) fun _ => id

theorem many (hparser : Extends more parser wider before fun rest => before rest ∨ after rest)
    (htakes : parser.Takes fun taken _ => taken ≠ [])
    (hstop : ∀ rest, after rest → parser.Refuses rest → wider.Refuses (rest ++ more)) :
    Extends more (Parser.many parser) (Parser.many wider)
      (fun input => before input ∨ after input) after := by
  intro input values rest hmany hrest
  obtain ⟨hsteps, hrefuses⟩ := steps_of_many htakes hmany
  suffices hwider : (before input ∨ after input) ∧
      Steps wider (input ++ more) values (rest ++ more) by
    obtain ⟨_, hresult, rfl⟩ := hwider.2.many (hstop rest hrest hrefuses)
    exact ⟨hwider.1, hresult⟩
  clear hmany
  induction hsteps with
  | nil => exact ⟨.inr hrest, .nil⟩
  | @cons input middle rest value values htaken hshorter _ ih =>
      obtain ⟨hmiddle, hothers⟩ := ih hrest hrefuses
      obtain ⟨hinput, hwider⟩ := hparser input value middle htaken hmiddle
      refine ⟨.inl hinput, .cons hwider ?_ hothers⟩
      simpa only [List.length_append, Nat.add_lt_add_iff_right] using hshorter

theorem steps (hparser : Extends more parser wider before fun _ => True)
    {input rest : List Lexeme} {values : List α} (hsteps : Steps parser input values rest) :
    Steps wider (input ++ more) values (rest ++ more) := by
  induction hsteps with
  | nil => exact .nil
  | cons htaken hshorter _ ih =>
      refine .cons (hparser _ _ _ htaken trivial).2 ?_ ih
      simpa only [List.length_append, Nat.add_lt_add_iff_right] using hshorter

theorem spanned (hparser : Extends more parser wider before after) :
    Extends more (Parser.spanned parser) (Parser.spanned wider) before after := by
  intro input read rest hresult hrest
  rw [result_spanned, Option.map_eq_some_iff] at hresult
  obtain ⟨⟨value, after⟩, hvalue, heq⟩ := hresult
  cases heq
  obtain ⟨hinput, hwider⟩ := hparser input value _ hvalue hrest
  refine ⟨hinput, ?_⟩
  rw [result_spanned, hwider, Option.map_some]
  dsimp only
  rw [List.length_append, List.length_append, Nat.add_sub_add_right,
    List.take_append_of_le_length (Nat.sub_le _ _)]

theorem between {opening widerOpening closing widerClosing : Parser β}
    {inside last : List Lexeme → Prop} (hopening : Extends more opening widerOpening before inside)
    (hparser : Extends more parser wider inside last)
    (hclosing : Extends more closing widerClosing last after) :
    Extends more (Parser.between opening parser closing)
      (Parser.between widerOpening wider widerClosing) before after :=
  hopening.bind fun _ => hparser.bind fun _ => hclosing.bind fun _ => pure _ _

end Extends

theorem result_separatedBy (item : Parser α) (separator : Parser β) (input : List Lexeme) :
    (separatedBy item separator input).result =
      match (item input).result with
      | none => some ([], input)
      | some (first, rest) =>
        (many (do let _ ← separator; item) rest).result.map fun others =>
          (first :: others.1, others.2) := by
  have hmap (first : α) (rest : List Lexeme) :
      ((do
        let others ← many (do let _ ← separator; item)
        return first :: others : Parser (List α)) rest).result =
          (many (do let _ ← separator; item) rest).result.map fun others =>
            (first :: others.1, others.2) := by
    rw [Option.map_eq_bind]
    exact result_bind (many _) _ rest
  unfold separatedBy
  rw [result_bind, optional, result_orElse]
  change (((item >>= fun value => pure (some value)) input).result.or _).bind _ = _
  rw [result_bind]
  cases (item input).result with
  | none => rfl
  | some read => exact hmap read.1 read.2

/-- How items and separators are read in front of more tokens, up to a rest that ends them. -/
structure ExtendsList (more : List Lexeme) (item widerItem : Parser α)
    (separator widerSeparator : Parser β) (first joint stop : List Lexeme → Prop) : Prop where
  readsItem : Extends more item widerItem first fun rest => joint rest ∨ stop rest
  readsSeparator : Extends more separator widerSeparator joint fun rest => first rest ∨ stop rest
  takes : Takes (do let _ ← separator; item) fun taken _ => taken ≠ []
  noItem : ∀ rest, joint rest ∨ stop rest → widerItem.Refuses (rest ++ more)
  noStep : ∀ rest, stop rest → Refuses (do let _ ← widerSeparator; widerItem) (rest ++ more)
  noSeparator : ∀ rest, stop rest → separator.Refuses rest → widerSeparator.Refuses (rest ++ more)

namespace ExtendsList

variable {more : List Lexeme} {item widerItem : Parser α} {separator widerSeparator : Parser β}
  {first joint stop : List Lexeme → Prop}

/-- What ends the items, or a separator in front of it. -/
def Trails (separator : Parser β) (stop : List Lexeme → Prop) (rest : List Lexeme) : Prop :=
  stop rest ∨ ∃ value tail, (separator rest).result = some (value, tail) ∧ stop tail

variable (hlist : ExtendsList more item widerItem separator widerSeparator first joint stop)
include hlist

theorem joint_of_trails {rest : List Lexeme} (htrails : Trails separator stop rest) :
    joint rest ∨ stop rest := by
  rcases htrails with hstop | ⟨value, tail, hresult, hstop⟩
  · exact .inr hstop
  · exact .inl (hlist.readsSeparator rest value tail hresult (.inr hstop)).1

theorem many :
    Extends more (Parser.many do let _ ← separator; item)
      (Parser.many do let _ ← widerSeparator; widerItem) (fun rest => joint rest ∨ stop rest)
      (Trails separator stop) := by
  have hstep : Extends more (do let _ ← separator; item) (do let _ ← widerSeparator; widerItem)
      joint fun rest => joint rest ∨ Trails separator stop rest :=
    (hlist.readsSeparator.imp (fun _ => id) fun _ => Or.inl).bind fun _ =>
      hlist.readsItem.imp (fun _ => id) fun _ hrest => hrest.elim .inl hlist.joint_of_trails
  refine (hstep.many hlist.takes ?_).imp (fun rest hrest => hrest.elim .inl hlist.joint_of_trails)
    fun _ => id
  rintro rest (hrest | ⟨value, tail, hresult, htail⟩) -
  · exact hlist.noStep rest hrest
  · obtain ⟨-, hwider⟩ := hlist.readsSeparator rest value tail hresult (.inr htail)
    exact (refuses_bind_iff hwider).mpr (hlist.noItem tail (.inr htail))

theorem separatedBy :
    Extends more (Parser.separatedBy item separator) (Parser.separatedBy widerItem widerSeparator)
      (fun input => first input ∨ joint input ∨ stop input) (Trails separator stop) := by
  intro input values rest hresult hrest
  rw [result_separatedBy] at hresult
  rw [result_separatedBy]
  split at hresult
  · cases hresult
    have hinput := hlist.joint_of_trails hrest
    exact ⟨.inr hinput, by rw [hlist.noItem _ hinput]⟩
  · next value middle hvalue =>
      rw [Option.map_eq_some_iff] at hresult
      obtain ⟨⟨others, after⟩, hothers, heq⟩ := hresult
      cases heq
      obtain ⟨hmiddle, hwiderOthers⟩ := hlist.many middle others _ hothers hrest
      obtain ⟨hinput, hwider⟩ := hlist.readsItem input value middle hvalue hmiddle
      refine ⟨.inl hinput, ?_⟩
      rw [hwider]
      dsimp only
      rw [hwiderOthers, Option.map_some]

theorem separatedByTrailing :
    Extends more (Parser.separatedByTrailing item separator)
      (Parser.separatedByTrailing widerItem widerSeparator)
      (fun input => first input ∨ joint input ∨ stop input) stop := by
  refine hlist.separatedBy.bind fun items => ?_
  dsimp only
  split
  · have hseparator : Extends more separator widerSeparator joint stop :=
      hlist.readsSeparator.imp (fun _ => id) fun _ => Or.inr
    have htrailing := hseparator.reads.optional hlist.noSeparator
    exact (htrailing.imp (fun _ => Or.symm) fun _ => id).bind fun _ => .pure _ _
  · exact (Extends.pure items stop).imp (fun _ => Or.inl) fun _ => id

end ExtendsList

section Recursion

variable {ι : Type} {family : (ι → Parser α) → ι → Parser α} {bound : Nat}

theorem result_below {index : ι} {input : List Lexeme} {reply : α × List Lexeme} :
    (below family bound index input).result = some reply ↔
      input.length < bound ∧ (fix family index input).result = some reply := by
  unfold below
  split
  · next hlength => exact (and_iff_right hlength).symm
  · next hlength => simp [fail, hlength]

theorem refuses_fix_iff {index : ι} {input : List Lexeme} :
    Refuses (Parser.fix family index) input ↔
      (family (below family input.length) index).Refuses input := by
  unfold Refuses
  rw [fix_eq]

theorem Takes.below {good : List Lexeme → α → Prop} {index : ι}
    (hfix : Takes (Parser.fix family index) good) : (below family bound index).Takes good :=
  fun input value rest hresult => hfix input value rest (result_below.mp hresult).2

/-- A recursive family reads on in front of more tokens if its members do. What the rest must look
like may depend on the family, on inputs that are shorter than the rest. -/
theorem Extends.fix {more : List Lexeme} {before : List Lexeme → Prop}
    {after : (ι → Parser α) → List Lexeme → Prop}
    (hfamily : ∀ bound wide, (∀ index, Extends more (below family bound index)
      (below family wide index) before (after (below family bound))) →
        ∀ index, Extends more (family (below family bound) index) (family (below family wide) index)
          before (after (below family bound)))
    (hafter : ∀ inner other rest, (∀ index tail, tail.length < rest.length →
      inner index tail = other index tail) → after inner rest → after other rest)
    (hadvances : ∀ index, Advances (fix family index)) (index : ι) :
    Extends more (Parser.fix family index) (Parser.fix family index) before
      (after (Parser.fix family)) := by
  intro input
  induction hlength : input.length using Nat.strong_induction_on generalizing input index with
  | h length ih =>
      subst hlength
      intro value rest hresult hrest
      -- the members are left shorter inputs, with and without `more` behind them
      have hinner : ∀ index, Extends more (below family input.length index)
          (below family (input ++ more).length index) before
          (after (below family input.length)) := by
        intro next inside read tail hread htail
        obtain ⟨hshorter, hread⟩ := result_below.mp hread
        obtain ⟨taken, rfl, -⟩ := hadvances next inside read tail hread
        rw [List.length_append] at hshorter
        have hagree : after (Parser.fix family) tail := by
          refine hafter _ _ tail (fun index rest hrest => ?_) htail
          rw [below, if_pos (by omega)]
        obtain ⟨hinside, hwider⟩ :=
          ih _ (by rwa [List.length_append]) next _ rfl read tail hread hagree
        refine ⟨hinside, result_below.mpr ⟨?_, hwider⟩⟩
        simp only [List.length_append]
        omega
      have hlength : rest.length ≤ input.length := by
        obtain ⟨taken, rfl, -⟩ := hadvances index input value rest hresult
        rw [List.length_append]
        exact Nat.le_add_left _ _
      rw [fix_eq] at hresult ⊢
      refine hfamily _ _ hinner index input value rest hresult ?_
      refine hafter _ _ rest (fun index tail htail => ?_) hrest
      rw [below, if_pos (by omega)]

end Recursion

end Parser

end BrightScript
