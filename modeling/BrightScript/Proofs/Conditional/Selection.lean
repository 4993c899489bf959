import BrightScript.Proofs.Conditional.Bracketing

namespace BrightScript.Conditional

theorem ruled_splitLines (lexemes : List Lexeme) : Ruled (splitLines lexemes) := by
  induction lexemes with
  | nil => exact .nil
  | cons lexeme lexemes ih =>
      rw [splitLines]
      split
      · rename_i hbreak
        exact .line (List.forall_mem_nil _) hbreak ih
      · rename_i hplain
        cases hlines : splitLines lexemes with
        | nil => exact .last (List.cons_ne_nil _ _) (List.forall_mem_singleton.mpr hplain)
        | cons line lines =>
            rw [hlines] at ih
            cases ih with
            | last _ hwords =>
                exact .last (List.cons_ne_nil _ _) (List.forall_mem_cons.mpr ⟨hplain, hwords⟩)
            | line hwords hbreak hrest =>
                exact .line (List.forall_mem_cons.mpr ⟨hplain, hwords⟩) hbreak hrest

theorem flatten_splitLines (lexemes : List Lexeme) : (splitLines lexemes).flatten = lexemes := by
  induction lexemes with
  | nil => rfl
  | cons lexeme lexemes ih =>
      rw [splitLines]
      split
      · rw [List.flatten_cons, ih, List.singleton_append]
      · cases hlines : splitLines lexemes with
        | nil =>
            rw [hlines] at ih
            rw [← ih]
            rfl
        | cons line lines =>
            rw [hlines] at ih
            rw [← ih]
            rfl

theorem splitLines_words {words : Line} (hwords : words ≠ [])
    (hplain : ∀ word ∈ words, word.token ≠ .newline) : splitLines words = [words] := by
  induction words with
  | nil => exact absurd rfl hwords
  | cons word words ih =>
      obtain ⟨hword, hrest⟩ := List.forall_mem_cons.mp hplain
      rw [splitLines, if_neg hword]
      cases words with
      | nil => rfl
      | cons => rw [ih (List.cons_ne_nil _ _) hrest]

theorem splitLines_line {words : Line} (hplain : ∀ word ∈ words, word.token ≠ .newline)
    {lineBreak : Lexeme} (hbreak : lineBreak.token = .newline) (rest : List Lexeme) :
    splitLines (words ++ [lineBreak] ++ rest) = (words ++ [lineBreak]) :: splitLines rest := by
  induction words with
  | nil => simp [splitLines, hbreak]
  | cons word words ih =>
      obtain ⟨hword, hrest⟩ := List.forall_mem_cons.mp hplain
      rw [List.cons_append, List.cons_append, splitLines, if_neg hword, ih hrest]

theorem splitLines_eq_iff {lexemes : List Lexeme} {lines : List Line} :
    splitLines lexemes = lines ↔ Ruled lines ∧ lines.flatten = lexemes := by
  constructor
  · rintro rfl
    exact ⟨ruled_splitLines lexemes, flatten_splitLines lexemes⟩
  · rintro ⟨hlines, rfl⟩
    induction hlines with
    | nil => rfl
    | last hwords hplain =>
        rw [List.flatten_singleton]
        exact splitLines_words hwords hplain
    | line hplain hbreak _ ih =>
        rw [List.flatten_cons, splitLines_line hplain hbreak, ih]

/-- The constants that are known in a state: those defined so far, then those of the manifest. -/
def State.known (manifest : Manifest) (state : State) : Constants := fun name =>
  (state.constants.get? name).or (manifest.flag? name)

theorem value?_known (constants : NameMap Bool) (branchings : List Branching)
    (manifest : Manifest) (tokens : List Token) :
    (State.known manifest ⟨constants, branchings⟩).value? tokens =
      (condition constants manifest tokens).toOption := by
  fun_induction condition constants manifest tokens with
  | case1 | case2 | case3 => rfl
  | case4 name value hname => exact hname
  | case5 name hname => exact hname
  | case6 token hnotTrue hnotFalse hnotName =>
      by_cases hnot : token = .keyword .not
      · subst hnot
        rfl
      · unfold Constants.value?
        split <;> simp_all [Except.toOption]
  | case7 rest hsingle ih =>
      rw [Constants.value?, ih]
      cases condition constants manifest rest <;> rfl
  | case8 rest hempty hsingle hnot =>
      unfold Constants.value?
      split <;> simp_all [Except.toOption]

theorem exists_value?_iff {constants : NameMap Bool} {branchings : List Branching}
    {manifest : Manifest} {tokens : List Token} :
    (∃ truth, (State.known manifest ⟨constants, branchings⟩).value? tokens = some truth) ↔
      ∃ truth, condition constants manifest tokens = .ok truth := by
  rw [value?_known]
  cases condition constants manifest tokens with
  | ok value => simp [Except.toOption]
  | error problem => simp [Except.toOption]

theorem decided_fst (constants : NameMap Bool) (branchings : List Branching) (manifest : Manifest)
    (tokens : List Token) :
    (decided (condition constants manifest tokens)).1 =
      decide ((State.known manifest ⟨constants, branchings⟩).value? tokens = some true) := by
  rw [value?_known]
  cases condition constants manifest tokens with
  | ok value => simp [decided, Except.toOption]
  | error problem => simp [decided, Except.toOption]

theorem decided_snd_eq_nil_iff (constants : NameMap Bool) (branchings : List Branching)
    (manifest : Manifest) (tokens : List Token) :
    (decided (condition constants manifest tokens)).2 = [] ↔
      ∃ truth, (State.known manifest ⟨constants, branchings⟩).value? tokens = some truth := by
  rw [exists_value?_iff]
  cases condition constants manifest tokens with
  | ok value => simp [decided]
  | error problem => simp [decided]

theorem known_insert (constants : NameMap Bool) (branchings : List Branching) (manifest : Manifest)
    (name : String) (value : Bool) :
    State.known manifest ⟨constants.insert name value, branchings⟩ =
      (State.known manifest ⟨constants, branchings⟩).define name value := by
  funext other
  simp only [State.known, Constants.define, Dictionary.get?_insert, Name.same, beq_iff_eq]
  by_cases hsame : Name.key name = Name.key other
  · rw [if_pos hsame.symm, if_pos hsame, Option.some_or]
  · rw [if_neg (Ne.symm hsame), if_neg hsame]

theorem processLines_append (manifest : Manifest) (state : State) (first later : List Line) :
    processLines manifest state (first ++ later) =
      let before := processLines manifest state first
      let after := processLines manifest before.state later
      ⟨after.state, before.kept ++ after.kept, before.errors ++ after.errors⟩ := by
  induction first generalizing state with
  | nil => rfl
  | cons line first ih => simp only [List.cons_append, processLines, ih, List.append_assoc]

/-- What carrying out the directive of a line leads to. -/
def Progress.obeying (line : Line) (span : Span) (obeyed : State × List Problem) : Progress :=
  ⟨obeyed.1, lineBreaks line, obeyed.2.map (⟨span, ·⟩)⟩

theorem processLine_text {line : Line} (hrole : line.role = .text) (manifest : Manifest)
    (state : State) : processLine manifest state line =
      ⟨state, if state.active then line else lineBreaks line, []⟩ := by
  unfold Line.role at hrole
  split at hrole
  · unfold Role.ofDirective at hrole
    split at hrole <;> cases hrole
  · rename_i hother
    unfold processLine
    split
    · exact absurd rfl (hother _ _ _)
    · rfl

theorem exists_directive {line : Line} {role : Role} (hrole : line.role = role)
    (htext : role ≠ .text) :
    ∃ directive arguments span, Role.ofDirective directive arguments = role ∧
      ∀ manifest state, processLine manifest state line =
        .obeying line span (obey manifest state span directive arguments) := by
  subst hrole
  unfold Line.role at htext ⊢
  split at htext
  · exact ⟨_, _, _, rfl, fun _ _ => rfl⟩
  · exact absurd rfl htext

section Directive

variable {directive : String} {arguments condition : List Token}
variable (manifest : Manifest) (state : State) (span : Span)

theorem obey_definition {name : String} {value : Token}
    (hrole : Role.ofDirective directive arguments = .definition name value) :
    obey manifest state span directive arguments =
      if state.active then define manifest state [.identifier name, .symbol .equal, value]
      else (state, []) := by
  unfold Role.ofDirective at hrole
  split at hrole <;> cases hrole
  rfl

theorem obey_refused (hrole : Role.ofDirective directive arguments = .refused) :
    ∃ problem, obey manifest state span directive arguments =
      if state.active then (state, [problem]) else (state, []) := by
  unfold Role.ofDirective at hrole
  split at hrole <;> cases hrole
  unfold obey
  split
  · refine ⟨.malformedConst, ?_⟩
    unfold define
    split
    · simp_all
    · rfl
  all_goals first | exact ⟨_, rfl⟩ | simp_all

theorem obey_opening (hrole : Role.ofDirective directive arguments = .opening condition) :
    obey manifest state span directive arguments =
      openBranching manifest state span condition := by
  unfold Role.ofDirective at hrole
  split at hrole <;> cases hrole
  rfl

theorem obey_elseIf (hrole : Role.ofDirective directive arguments = .elseIf condition) :
    obey manifest state span directive arguments =
      nextBranch manifest state directive (some condition) := by
  unfold Role.ofDirective at hrole
  split at hrole <;> cases hrole <;> rfl

theorem obey_otherwise (hrole : Role.ofDirective directive arguments = .otherwise) :
    obey manifest state span directive arguments = nextBranch manifest state directive none := by
  unfold Role.ofDirective at hrole
  split at hrole <;> cases hrole
  simp only [obey]

theorem obey_closing (hrole : Role.ofDirective directive arguments = .closing) :
    obey manifest state span directive arguments = closeBranching state directive true := by
  unfold Role.ofDirective at hrole
  split at hrole <;> cases hrole <;> rfl

theorem obey_malformed (hrole : Role.ofDirective directive arguments = .malformed) :
    obey manifest state span directive arguments = (state, [.malformedEnd directive]) := by
  unfold Role.ofDirective at hrole
  split at hrole <;> cases hrole <;> rename_i hother
  · have hsome : arguments.isEmpty = false := by simpa using hother
    simp [obey, closeBranching, hsome]
  · have hdiffer : (arguments == [.keyword .if]) = false := by simpa using hother
    simp [obey, closeBranching, hdiffer]

theorem obey_unselected (hrole : (Role.ofDirective directive arguments).IsPlain)
    (hactive : state.active = false) :
    obey manifest state span directive arguments = (state, []) := by
  cases hdirective : Role.ofDirective directive arguments with
  | text => exact absurd hdirective (Role.ofDirective_ne_text _ _)
  | definition name value =>
      rw [obey_definition _ _ _ hdirective, hactive]
      rfl
  | refused =>
      obtain ⟨problem, hobey⟩ := obey_refused manifest state span hdirective
      rw [hobey, hactive]
      rfl
  | _ =>
      rw [hdirective] at hrole
      exact hrole.elim

end Directive

namespace Selection

theorem isSound_nil {known : Constants} {kept : List Lexeme} : IsSound ⟨known, kept, []⟩ :=
  List.forall_mem_nil _

theorem isSound_line_iff {line : Line} {known : Constants} :
    (Selection.line line known).IsSound ↔ line.role.IsSound known := by
  simp [IsSound, Selection.line]

theorem line_of_bare {line : Line} (hrole : line.role = .otherwise ∨ line.role = .closing)
    (known : Constants) :
    (Selection.line line known).known = known ∧ (Selection.line line known).IsSound := by
  rw [isSound_line_iff, Selection.line]
  rcases hrole with hrole | hrole <;> rw [hrole] <;> exact ⟨rfl, trivial⟩

theorem isSound_andThen_iff {first : Selection} {next : Constants → Selection} :
    (first.andThen next).IsSound ↔ first.IsSound ∧ (next first.known).IsSound := by
  simp only [IsSound, andThen, List.forall_mem_append]

theorem unselected_append (first later : List Line) (known : Constants) :
    unselected (first ++ later) known = (unselected first known).andThen (unselected later) := by
  simp [unselected, andThen]

end Selection

/-- From a state, lines are processed as a selection says and leave the given `#if`s open; there
are errors just if the selection is not sound. -/
structure Leads (manifest : Manifest) (state : State) (lines : List Line)
    (branchings : List Branching) (selection : Selection) : Prop where
  branchings_eq : (processLines manifest state lines).state.branchings = branchings
  known_eq : (processLines manifest state lines).state.known manifest = selection.known
  kept_eq : (processLines manifest state lines).kept = selection.kept
  errors_eq_nil_iff : (processLines manifest state lines).errors = [] ↔ selection.IsSound

namespace Leads

variable {manifest : Manifest} {state : State} {first later : List Line}
variable {middle branchings : List Branching} {selection : Selection}

theorem append {next : Constants → Selection} (hfirst : Leads manifest state first middle selection)
    (hlater : ∀ after : State, after.branchings = middle →
      after.known manifest = selection.known →
      Leads manifest after later branchings (next (after.known manifest))) :
    Leads manifest state (first ++ later) branchings (selection.andThen next) := by
  have hnext := hlater _ hfirst.branchings_eq hfirst.known_eq
  rw [hfirst.known_eq] at hnext
  constructor
  · rw [processLines_append]
    exact hnext.branchings_eq
  · rw [processLines_append]
    exact hnext.known_eq
  · rw [processLines_append, Selection.andThen, ← hfirst.kept_eq, ← hnext.kept_eq]
  · rw [processLines_append, Selection.isSound_andThen_iff, ← hfirst.errors_eq_nil_iff,
      ← hnext.errors_eq_nil_iff, List.append_eq_nil_iff]

theorem cons {line : Line} {next : Constants → Selection}
    (hline : Leads manifest state [line] middle selection)
    (hlater : ∀ after : State, after.branchings = middle →
      after.known manifest = selection.known →
      Leads manifest after later branchings (next (after.known manifest))) :
    Leads manifest state (line :: later) branchings (selection.andThen next) :=
  hline.append hlater

theorem unselected
    (hfirst : Leads manifest state first middle (.unselected first (state.known manifest)))
    (hlater : ∀ after : State, after.branchings = middle →
      Leads manifest after later branchings (.unselected later (after.known manifest))) :
    Leads manifest state (first ++ later) branchings
      (.unselected (first ++ later) (state.known manifest)) := by
  rw [Selection.unselected_append]
  exact hfirst.append fun after hafter _ => hlater after hafter

theorem nil (manifest : Manifest) (state : State) :
    Leads manifest state [] state.branchings (.unselected [] (state.known manifest)) :=
  ⟨rfl, rfl, rfl, iff_of_true rfl Selection.isSound_nil⟩

theorem of_obeying {line : Line} {span : Span} {obeyed : State × List Problem}
    (hline : processLine manifest state line = .obeying line span obeyed)
    (hbranchings : obeyed.1.branchings = branchings)
    (hknown : obeyed.1.known manifest = selection.known)
    (hkept : lineBreaks line = selection.kept)
    (herrors : obeyed.2 = [] ↔ selection.IsSound) :
    Leads manifest state [line] branchings selection := by
  have hprocess : processLines manifest state [line] = .obeying line span obeyed := by
    simp [processLines, hline, Progress.obeying]
  constructor <;> rw [hprocess]
  · exact hbranchings
  · exact hknown
  · exact hkept
  · rw [Progress.obeying, List.map_eq_nil_iff]
    exact herrors

end Leads

section Line

variable (manifest : Manifest) {state : State} {line : Line}

theorem kept_line {role : Role} (hrole : line.role = role) (htext : role ≠ .text)
    (known : Constants) : lineBreaks line = (Selection.line line known).kept := by
  subst hrole
  rw [Selection.line, if_neg htext]

theorem kept_unselected (line : Line) (known : Constants) :
    lineBreaks line = (Selection.unselected [line] known).kept := by
  simp [Selection.unselected]

theorem leads_plain_unselected (hline : line.role.IsPlain) (hactive : state.active = false) :
    Leads manifest state [line] state.branchings (.unselected [line] (state.known manifest)) := by
  have hprocess : ∃ span, processLine manifest state line = .obeying line span (state, []) := by
    by_cases hrole : line.role = .text
    · refine ⟨default, ?_⟩
      rw [processLine_text hrole, hactive]
      rfl
    · obtain ⟨directive, arguments, span, hdirective, hprocess⟩ := exists_directive rfl hrole
      refine ⟨span, ?_⟩
      rw [hprocess, obey_unselected _ _ _ (hdirective ▸ hline) hactive]
  obtain ⟨span, hprocess⟩ := hprocess
  exact .of_obeying hprocess rfl rfl (kept_unselected line _)
    (iff_of_true rfl Selection.isSound_nil)

theorem leads_definition_selected {name : String} {value : Token}
    (hline : line.role = .definition name value) (hactive : state.active = true) :
    Leads manifest state [line] state.branchings (.line line (state.known manifest)) := by
  obtain ⟨constants, branchings⟩ := state
  obtain ⟨directive, arguments, span, hdirective, hprocess⟩ :=
    exists_directive hline (by simp)
  have hobey := obey_definition manifest ⟨constants, branchings⟩ span hdirective
  rw [if_pos hactive, define] at hobey
  have hvalue := value?_known constants branchings manifest [value]
  have hkept := kept_line hline (by simp) (State.known manifest ⟨constants, branchings⟩)
  cases hcondition : condition constants manifest [value] with
  | ok truth =>
      rw [hcondition] at hvalue hobey
      refine .of_obeying (hprocess manifest _) ?_ ?_ hkept ?_ <;> rw [hobey]
      · rw [known_insert, Selection.line, hline, Constants.after, hvalue]
        rfl
      · rw [Selection.isSound_line_iff, hline]
        exact iff_of_true rfl ⟨truth, hvalue⟩
  | error problem =>
      rw [hcondition] at hvalue hobey
      refine .of_obeying (hprocess manifest _) ?_ ?_ hkept ?_ <;> rw [hobey]
      · rw [Selection.line, hline, Constants.after, hvalue]
        rfl
      · rw [Selection.isSound_line_iff, hline]
        refine iff_of_false (List.cons_ne_nil _ _) ?_
        rintro ⟨truth, htruth⟩
        rw [hvalue] at htruth
        cases htruth

theorem leads_refused_selected (hline : line.role = .refused) (hactive : state.active = true) :
    Leads manifest state [line] state.branchings (.line line (state.known manifest)) := by
  obtain ⟨directive, arguments, span, hdirective, hprocess⟩ :=
    exists_directive hline (by simp)
  obtain ⟨problem, hobey⟩ := obey_refused manifest state span hdirective
  rw [if_pos hactive] at hobey
  have hkept := kept_line hline (by simp) (state.known manifest)
  refine .of_obeying (hprocess manifest _) ?_ ?_ hkept ?_ <;> rw [hobey]
  · rw [Selection.line, hline]
    rfl
  · rw [Selection.isSound_line_iff, hline]
    exact iff_of_false (List.cons_ne_nil _ _) id

theorem leads_plain_selected (hline : line.role.IsPlain) (hactive : state.active = true) :
    Leads manifest state [line] state.branchings (.line line (state.known manifest)) := by
  cases hrole : line.role with
  | text =>
      have hprocess : processLines manifest state [line] = ⟨state, line, []⟩ := by
        simp [processLines, processLine_text hrole, hactive]
      constructor <;> rw [hprocess]
      · rw [Selection.line, hrole]
        rfl
      · rw [Selection.line, if_pos hrole]
      · rw [Selection.isSound_line_iff, hrole]
        exact iff_of_true rfl trivial
  | definition name value => exact leads_definition_selected manifest hrole hactive
  | refused => exact leads_refused_selected manifest hrole hactive
  | _ => simp [hrole, Role.IsPlain] at hline

/-- The `#if` that is open behind a header whose condition is looked at. -/
def Branching.headed (span : Span) (value : Bool) : Branching := ⟨span, true, value, value, false⟩

theorem leads_opening_selected {condition : List Token} (hline : line.role = .opening condition)
    (hactive : state.active = true) :
    ∃ span, Leads manifest state [line]
      (.headed span (decide ((state.known manifest).value? condition = some true)) ::
        state.branchings) (.line line (state.known manifest)) := by
  obtain ⟨constants, branchings⟩ := state
  obtain ⟨directive, arguments, span, hdirective, hprocess⟩ :=
    exists_directive hline (by simp)
  have hobey := obey_opening manifest ⟨constants, branchings⟩ span hdirective
  rw [openBranching, hactive] at hobey
  refine ⟨span, .of_obeying (hprocess manifest _) ?_ ?_ (kept_line hline (by simp) _) ?_⟩ <;>
    rw [hobey]
  · rw [← decided_fst]
    rfl
  · rw [Selection.line, hline]
    rfl
  · rw [Selection.isSound_line_iff, hline]
    exact decided_snd_eq_nil_iff constants branchings manifest condition

theorem leads_opening_unselected {condition : List Token} (hline : line.role = .opening condition)
    (hactive : state.active = false) :
    ∃ span, Leads manifest state [line]
      (⟨span, false, false, false, false⟩ :: state.branchings)
      (.unselected [line] (state.known manifest)) := by
  obtain ⟨directive, arguments, span, hdirective, hprocess⟩ :=
    exists_directive hline (by simp)
  have hobey := obey_opening manifest state span hdirective
  rw [openBranching, hactive] at hobey
  refine ⟨span, .of_obeying (hprocess manifest _) ?_ ?_ (kept_unselected line _) ?_⟩ <;>
    rw [hobey]
  · rfl
  · rfl
  · exact iff_of_true rfl Selection.isSound_nil

variable {branching : Branching} {outer : List Branching}

/-- No branch of an `#if` in selected text is selected so far, and its `#else` is to come. -/
structure Branching.Waiting (branching : Branching) : Prop where
  enclosing : branching.enclosing = true
  taken : branching.taken = false
  sawElse : branching.sawElse = false

/-- No further branch of an `#if` will be selected, and its `#else` is to come. -/
structure Branching.Passed (branching : Branching) : Prop where
  settled : (branching.enclosing && !branching.taken) = false
  sawElse : branching.sawElse = false

theorem leads_elseIf_waiting {condition : List Token} (hline : line.role = .elseIf condition)
    (hstate : state.branchings = branching :: outer) (hwaiting : branching.Waiting) :
    ∃ span, Leads manifest state [line]
      (.headed span (decide ((state.known manifest).value? condition = some true)) :: outer)
      (.line line (state.known manifest)) := by
  obtain ⟨constants, branchings⟩ := state
  obtain rfl : branchings = branching :: outer := hstate
  obtain ⟨directive, arguments, span, hdirective, hprocess⟩ :=
    exists_directive hline (by simp)
  have hobey := obey_elseIf manifest ⟨constants, branching :: outer⟩ span hdirective
  simp only [nextBranch, hwaiting.sawElse, hwaiting.enclosing, hwaiting.taken, Bool.not_false,
    Bool.and_true, Bool.true_and, Bool.false_or, if_true, Bool.false_eq_true, if_false] at hobey
  refine ⟨branching.span, .of_obeying (hprocess manifest _) ?_ ?_ (kept_line hline (by simp) _) ?_⟩
    <;> rw [hobey]
  · rw [← decided_fst, Branching.headed]
  · rw [Selection.line, hline]
    rfl
  · rw [Selection.isSound_line_iff, hline]
    exact decided_snd_eq_nil_iff constants (branching :: outer) manifest condition

theorem leads_elseIf_passed {condition : List Token} (hline : line.role = .elseIf condition)
    (hstate : state.branchings = branching :: outer) (hpassed : branching.Passed) :
    ∃ next : Branching, next.Passed ∧ next.active = false ∧
      Leads manifest state [line] (next :: outer) (.unselected [line] (state.known manifest)) := by
  obtain ⟨constants, branchings⟩ := state
  obtain rfl : branchings = branching :: outer := hstate
  obtain ⟨directive, arguments, span, hdirective, hprocess⟩ :=
    exists_directive hline (by simp)
  have hobey := obey_elseIf manifest ⟨constants, branching :: outer⟩ span hdirective
  simp only [nextBranch, hpassed.sawElse, hpassed.settled, Bool.and_false, Bool.or_false,
    Bool.false_eq_true, if_false] at hobey
  refine ⟨{ branching with active := false }, ⟨hpassed.settled, hpassed.sawElse⟩, rfl,
    .of_obeying (hprocess manifest _) ?_ ?_ (kept_unselected line _) ?_⟩ <;> rw [hobey]
  · rw [hpassed.sawElse]
  · rfl
  · exact iff_of_true rfl Selection.isSound_nil

theorem leads_otherwise (hline : line.role = .otherwise)
    (hstate : state.branchings = branching :: outer) (hsaw : branching.sawElse = false)
    {selection : Selection} (hknown : state.known manifest = selection.known)
    (hkept : lineBreaks line = selection.kept) (hsound : selection.IsSound) :
    ∃ next : Branching, next.active = (branching.enclosing && !branching.taken) ∧
      Leads manifest state [line] (next :: outer) selection := by
  obtain ⟨constants, branchings⟩ := state
  obtain rfl : branchings = branching :: outer := hstate
  obtain ⟨directive, arguments, span, hdirective, hprocess⟩ :=
    exists_directive hline (by simp)
  have hobey := obey_otherwise manifest ⟨constants, branching :: outer⟩ span
    hdirective
  simp only [nextBranch, hsaw, Bool.false_eq_true, if_false] at hobey
  let next : Branching := { branching with
    active := branching.enclosing && !branching.taken
    taken := true
    sawElse := true }
  refine ⟨next, rfl, .of_obeying (hprocess manifest _) ?_ ?_ hkept ?_⟩ <;> rw [hobey]
  · exact hknown
  · exact iff_of_true rfl hsound

theorem leads_closing (hline : line.role = .closing)
    (hstate : state.branchings = branching :: outer) {selection : Selection}
    (hknown : state.known manifest = selection.known) (hkept : lineBreaks line = selection.kept)
    (hsound : selection.IsSound) : Leads manifest state [line] outer selection := by
  obtain ⟨constants, branchings⟩ := state
  obtain rfl : branchings = branching :: outer := hstate
  obtain ⟨directive, arguments, span, hdirective, hprocess⟩ :=
    exists_directive hline (by simp)
  have hobey := obey_closing manifest ⟨constants, branching :: outer⟩ span hdirective
  simp only [closeBranching, Bool.not_true, Bool.false_eq_true, if_false] at hobey
  refine .of_obeying (hprocess manifest _) ?_ ?_ hkept ?_ <;> rw [hobey]
  · exact hknown
  · exact iff_of_true rfl hsound

end Line

theorem active_of_branchings {state : State} {branching : Branching} {outer : List Branching}
    (hstate : state.branchings = branching :: outer) : state.active = branching.active := by
  rw [State.active, hstate]

mutual

theorem Passage.leads_unselected (manifest : Manifest) : ∀ (passage : Passage) {state : State},
    state.active = false → Leads manifest state passage.lines state.branchings
      (.unselected passage.lines (state.known manifest))
  | .nil, state, _ => .nil manifest state
  | .line line hline rest, state, hactive => by
      refine (leads_plain_unselected manifest hline hactive).unselected fun after hafter => ?_
      rw [← hafter]
      refine rest.leads_unselected manifest ?_
      rw [State.active, hafter]
      exact hactive
  | .choice opening condition hopening body branches rest, state, hactive => by
      obtain ⟨span, hline⟩ := leads_opening_unselected manifest hopening hactive
      refine hline.unselected fun inside hinside => ?_
      have hbody := body.leads_unselected manifest (active_of_branchings hinside)
      refine hbody.unselected fun behind hbehind => ?_
      have hbranches :=
        branches.leads_unselected manifest (hbehind.trans hinside) ⟨rfl, rfl⟩
      refine hbranches.unselected fun after hafter => ?_
      rw [← hafter]
      refine rest.leads_unselected manifest ?_
      rw [State.active, hafter]
      exact hactive

/-- Where a branch was selected, or the text around is not, no further branch is selected. -/
theorem Branches.leads_unselected (manifest : Manifest) : ∀ (branches : Branches) {state : State}
    {branching : Branching} {outer : List Branching}, state.branchings = branching :: outer →
    branching.Passed → Leads manifest state branches.lines outer
      (.unselected branches.lines (state.known manifest))
  | .closing line hline, state, branching, outer, hstate, _ =>
      leads_closing manifest hline hstate rfl (kept_unselected line _) Selection.isSound_nil
  | .elseIf line condition hline body branches, state, branching, outer, hstate, hpassed => by
      obtain ⟨next, hnext, hinactive, hline⟩ :=
        leads_elseIf_passed manifest hline hstate hpassed
      refine hline.unselected fun inside hinside => ?_
      have hbody :=
        body.leads_unselected manifest ((active_of_branchings hinside).trans hinactive)
      refine hbody.unselected fun behind hbehind => ?_
      exact branches.leads_unselected manifest (hbehind.trans hinside) hnext
  | .otherwise line hline body closing hclosing, state, branching, outer, hstate, hpassed => by
      obtain ⟨next, hinactive, hline⟩ := leads_otherwise manifest hline hstate
        hpassed.sawElse rfl (kept_unselected line _) Selection.isSound_nil
      refine hline.unselected fun inside hinside => ?_
      have hbody := body.leads_unselected manifest
        ((active_of_branchings hinside).trans (hinactive.trans hpassed.settled))
      refine hbody.unselected fun behind hbehind => ?_
      exact leads_closing manifest hclosing (hbehind.trans hinside) rfl (kept_unselected closing _)
        Selection.isSound_nil

end

theorem leads_branch {manifest : Manifest} {state : State} {span : Span} {header : Line}
    {condition : List Token} {body : Passage} {branches : Branches} {outer : List Branching}
    (hrole : ∀ known : Constants, known.after header.role = known)
    (hheader : Leads manifest state [header]
      (.headed span (decide ((state.known manifest).value? condition = some true)) :: outer)
      (.line header (state.known manifest)))
    (hbody : ∀ inside : State, inside.active = true →
      Leads manifest inside body.lines inside.branchings (body.selection (inside.known manifest)))
    (hbranches : ∀ (behind : State) (branching : Branching),
      behind.branchings = branching :: outer → branching.Waiting →
      Leads manifest behind branches.lines outer
        (branches.selection (behind.known manifest))) :
    Leads manifest state (header :: (body.lines ++ branches.lines)) outer
      (.branch header condition body.selection body.lines branches.selection branches.lines
        (state.known manifest)) := by
  refine hheader.cons fun inside hinside hknown => ?_
  have hsame : inside.known manifest = state.known manifest := hknown.trans (hrole _)
  rw [← hsame] at hinside
  by_cases hvalue : (inside.known manifest).value? condition = some true
  · rw [decide_eq_true hvalue] at hinside
    rw [if_pos hvalue]
    refine (hbody inside (active_of_branchings hinside)).append fun behind hbehind _ => ?_
    exact branches.leads_unselected manifest (hbehind.trans hinside) ⟨rfl, rfl⟩
  · rw [decide_eq_false hvalue] at hinside
    rw [if_neg hvalue]
    have hskipped := body.leads_unselected manifest (active_of_branchings hinside)
    refine hskipped.append fun behind hbehind _ => ?_
    exact hbranches behind _ (hbehind.trans hinside) ⟨rfl, rfl, rfl⟩

mutual

/-- A passage that is selected is processed as its selection says. -/
theorem Passage.leads_selection (manifest : Manifest) : ∀ (passage : Passage) {state : State},
    state.active = true → Leads manifest state passage.lines state.branchings
      (passage.selection (state.known manifest))
  | .nil, state, _ => .nil manifest state
  | .line line hline rest, state, hactive => by
      refine (leads_plain_selected manifest hline hactive).cons fun after hafter _ => ?_
      rw [← hafter]
      refine rest.leads_selection manifest ?_
      rw [State.active, hafter]
      exact hactive
  | .choice opening condition hopening body branches rest, state, hactive => by
      obtain ⟨span, hline⟩ := leads_opening_selected manifest hopening hactive
      have hchoice := leads_branch (fun _ => by rw [hopening]; rfl) hline
        (fun inside => body.leads_selection manifest)
        (fun behind branching => branches.leads_selection manifest)
      rw [Passage.lines, ← List.append_assoc, ← List.cons_append]
      refine hchoice.append fun after hafter _ => ?_
      rw [← hafter]
      refine rest.leads_selection manifest ?_
      rw [State.active, hafter]
      exact hactive

/-- Where no branch was selected yet, branches are processed as their selection says. -/
theorem Branches.leads_selection (manifest : Manifest) : ∀ (branches : Branches) {state : State}
    {branching : Branching} {outer : List Branching}, state.branchings = branching :: outer →
    branching.Waiting → Leads manifest state branches.lines outer
      (branches.selection (state.known manifest))
  | .closing line hline, state, branching, outer, hstate, _ => by
      obtain ⟨hknown, hsound⟩ := Selection.line_of_bare (.inr hline) (state.known manifest)
      exact leads_closing manifest hline hstate hknown.symm (kept_line hline (by simp) _) hsound
  | .elseIf line condition hline body branches, state, branching, outer, hstate, hwaiting => by
      obtain ⟨span, hheader⟩ :=
        leads_elseIf_waiting manifest hline hstate hwaiting
      exact leads_branch (fun _ => by rw [hline]; rfl) hheader
        (fun inside => body.leads_selection manifest)
        (fun behind branching => branches.leads_selection manifest)
  | .otherwise line hline body closing hclosing, state, branching, outer, hstate, hwaiting => by
      obtain ⟨hknown, hsound⟩ := Selection.line_of_bare (.inl hline) (state.known manifest)
      obtain ⟨next, hactive, hheader⟩ := leads_otherwise manifest hline hstate hwaiting.sawElse
        hknown.symm (kept_line hline (by simp) _) hsound
      rw [hwaiting.enclosing, hwaiting.taken] at hactive
      rw [Branches.lines, Branches.selection]
      refine hheader.cons fun inside hinside _ => ?_
      have hbody :=
        body.leads_selection manifest ((active_of_branchings hinside).trans hactive)
      refine hbody.append fun behind hbehind _ => ?_
      obtain ⟨hknown, hsound⟩ := Selection.line_of_bare (.inr hclosing) (behind.known manifest)
      exact leads_closing manifest hclosing (hbehind.trans hinside) hknown.symm
        (kept_line hclosing (by simp) _) hsound

end

section Errors

variable {manifest : Manifest} {state : State} {line : Line} {lines : List Line}

theorem branchings_of_plain (hline : line.role.IsPlain) :
    (processLine manifest state line).state.branchings = state.branchings := by
  cases hactive : state.active with
  | false => exact (leads_plain_unselected manifest hline hactive).branchings_eq
  | true => exact (leads_plain_selected manifest hline hactive).branchings_eq

theorem exists_of_nextBranch {directive : String} {elseIf? : Option (List Token)}
    (hproblems : (nextBranch manifest state directive elseIf?).2 = []) :
    ∃ branching next outer, state.branchings = branching :: outer ∧ branching.sawElse = false ∧
      (nextBranch manifest state directive elseIf?).1.branchings = next :: outer ∧
      next.sawElse = elseIf?.isNone := by
  obtain ⟨constants, branchings⟩ := state
  cases branchings with
  | nil => cases hproblems
  | cons branching outer =>
      cases hsaw : branching.sawElse with
      | true =>
          simp only [nextBranch, hsaw, if_true] at hproblems
          cases hproblems
      | false =>
          have hnext : ∃ next,
              (nextBranch manifest ⟨constants, branching :: outer⟩ directive elseIf?).1.branchings =
                next :: outer ∧ next.sawElse = elseIf?.isNone := by
            simp only [nextBranch, hsaw, Bool.false_eq_true, if_false]
            cases elseIf? with
            | none => exact ⟨_, rfl, rfl⟩
            | some condition => exact ⟨_, rfl, rfl⟩
          obtain ⟨next, hbranchings, hlast⟩ := hnext
          exact ⟨branching, next, outer, rfl, hsaw, hbranchings, hlast⟩

/-- A line that is processed without errors, in front of lines that complete the `#if`s that it
leaves open, completes those that were open before. -/
theorem completes_of_processLine (herrors : (processLine manifest state line).errors = [])
    (hlines : Completes (processLine manifest state line).state.branchings lines) :
    Completes state.branchings (line :: lines) := by
  by_cases hplain : line.role.IsPlain
  · rw [branchings_of_plain hplain] at hlines
    exact hlines.plain hplain
  -- Every other line has a directive, which changes the open `#if`s in its own way.
  obtain ⟨directive, arguments, span, hdirective, hprocess⟩ := exists_directive rfl
    fun htext : line.role = .text => hplain (by rw [htext]; trivial)
  rw [hprocess, Progress.obeying, List.map_eq_nil_iff] at herrors
  rw [hprocess, Progress.obeying] at hlines
  cases hrole : line.role with
  | opening condition =>
      rw [obey_opening _ _ _ (hdirective.trans hrole)] at hlines
      exact hlines.opening hrole
  | elseIf condition =>
      rw [obey_elseIf _ _ _ (hdirective.trans hrole)] at herrors hlines
      obtain ⟨branching, next, outer, hstate, hsaw, hnext, -⟩ := exists_of_nextBranch herrors
      rw [hnext] at hlines
      rw [hstate]
      exact hlines.elseIf hrole hsaw
  | otherwise =>
      rw [obey_otherwise _ _ _ (hdirective.trans hrole)] at herrors hlines
      obtain ⟨branching, next, outer, hstate, hsaw, hnext, hlast⟩ := exists_of_nextBranch herrors
      rw [hnext] at hlines
      rw [hstate]
      exact hlines.otherwise hrole hsaw hlast
  | closing =>
      rw [obey_closing _ _ _ (hdirective.trans hrole)] at herrors hlines
      obtain ⟨constants, branchings⟩ := state
      cases branchings with
      | nil => cases herrors
      | cons branching outer => exact Completes.closing hrole hlines
  | malformed =>
      rw [obey_malformed _ _ _ (hdirective.trans hrole)] at herrors
      cases herrors
  | _ => exact absurd (by rw [hrole]; trivial) hplain

theorem completes_of_processLines (herrors : (processLines manifest state lines).errors = [])
    (hclosed : (processLines manifest state lines).state.branchings = []) :
    Completes state.branchings lines := by
  -- from the last line back: what is open before a line is known from what is open behind it
  induction lines generalizing state with
  | nil =>
      obtain ⟨constants, branchings⟩ := state
      obtain rfl : branchings = [] := hclosed
      exact ⟨.nil, rfl⟩
  | cons line lines ih =>
      obtain ⟨hline, hlines⟩ := List.append_eq_nil_iff.mp herrors
      exact completes_of_processLine hline (ih hlines hclosed)

end Errors

theorem known_empty (manifest : Manifest) : State.known manifest {} = manifest.flag? := by
  funext name
  rw [State.known, Dictionary.get?_empty, Option.none_or]

theorem select_eq_ok_iff {manifest : Manifest} {lexemes kept : List Lexeme} :
    select manifest lexemes = .ok kept ↔
      let progress := processLines manifest {} (splitLines lexemes)
      progress.errors = [] ∧ progress.state.branchings = [] ∧ progress.kept = kept := by
  unfold select
  dsimp only
  generalize processLines manifest {} (splitLines lexemes) = progress
  have hnone : progress.errors ++ progress.state.branchings.reverse.map (⟨·.span, .unterminated⟩) =
      [] ↔ progress.errors = [] ∧ progress.state.branchings = [] := by
    rw [List.append_eq_nil_iff, List.map_eq_nil_iff, List.reverse_eq_nil_iff]
  rw [← and_assoc, ← hnone]
  split
  · rename_i herrors
    exact ⟨fun hkept => ⟨herrors, Except.ok.inj hkept⟩, fun h => congrArg Except.ok h.2⟩
  · rename_i hsome
    exact ⟨nofun, fun h => absurd h.1 hsome⟩

theorem Passage.leads_spelled (manifest : Manifest) {passage : Passage} {lexemes : List Lexeme}
    (hspells : passage.Spells lexemes) :
    Leads manifest {} (splitLines lexemes) [] (passage.selection manifest.flag?) := by
  rw [splitLines_eq_iff.mpr hspells, ← known_empty]
  exact passage.leads_selection manifest rfl

/-- A text is taken just if it is a passage, which it is in one way only, and every line that is
carried out where the passage is selected is in order: its condition is known, and it is no faulty
or refused directive. Then what is kept is the selection of the passage. -/
theorem select_nested (manifest : Manifest) (lexemes : List Lexeme) :
    ((∃ kept, select manifest lexemes = .ok kept) ↔
      ∃ passage : Passage, passage.Spells lexemes ∧
        (passage.selection manifest.flag?).IsSound) ∧
    ∀ passage : Passage, passage.Spells lexemes →
      (∀ other : Passage, other.Spells lexemes → other = passage) ∧
      ((passage.selection manifest.flag?).IsSound →
        select manifest lexemes = .ok (passage.selection manifest.flag?).kept) := by
  have htaken : ∀ passage : Passage, passage.Spells lexemes →
      (passage.selection manifest.flag?).IsSound →
      select manifest lexemes = .ok (passage.selection manifest.flag?).kept := by
    intro passage hspells hsound
    have hleads := passage.leads_spelled manifest hspells
    exact select_eq_ok_iff.mpr
      ⟨hleads.errors_eq_nil_iff.mpr hsound, hleads.branchings_eq, hleads.kept_eq⟩
  refine ⟨⟨?_, ?_⟩, fun passage hspells => ⟨?_, htaken passage hspells⟩⟩
  · rintro ⟨kept, hselect⟩
    obtain ⟨herrors, hclosed, -⟩ := select_eq_ok_iff.mp hselect
    -- With no `#if` open at the start, lines that complete it are those of a passage.
    obtain ⟨passage, hlines⟩ := completes_of_processLines herrors hclosed
    have hspells : passage.Spells lexemes := splitLines_eq_iff.mp hlines.symm
    exact ⟨passage, hspells, (passage.leads_spelled manifest hspells).errors_eq_nil_iff.mp herrors⟩
  · rintro ⟨passage, hspells, hsound⟩
    exact ⟨_, htaken passage hspells hsound⟩
  · intro other hother
    refine Passage.eq_of_lines ?_
    rw [← splitLines_eq_iff.mpr hother, splitLines_eq_iff.mpr hspells]

end BrightScript.Conditional
