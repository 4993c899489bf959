import BrightScript.Conditional
import BrightScript.Proofs.Conditional.Selection
import BrightScript.Proofs.Respelling.Machine
import BrightScript.Proofs.Token.LetterCase

namespace BrightScript

theorem Manifest.flag?_key (manifest : Manifest) (name : String) :
    manifest.flag? (Name.key name) = manifest.flag? name := by
  have hsame : ∀ other, Name.same other (Name.key name) = Name.same other name := fun other => by
    rw [Name.same, Name.same, Name.key_key]
  have hpair : pairFlag? (Name.key name) = pairFlag? name := by
    funext pair
    simp only [pairFlag?, hsame]
  simp only [flag?, constantFlag?, hpair, entryFlag?, hsame]

namespace Conditional

def Problem.lower : Problem → Problem
  | .unknownConstant name => .unknownConstant (Name.key name)
  | .unexpectedToken token => .unexpectedToken token.lower
  | .raised tokens => .raised (tokens.map Token.lower)
  | problem => problem

def Error.lower (error : Error) : Error := ⟨error.span, error.problem.lower⟩

def State.lower (state : State) : State := ⟨state.constants.respell .lower, state.branchings⟩

def Progress.lower (progress : Progress) : Progress :=
  ⟨progress.state.lower, progress.kept.map Lexeme.lower, progress.errors.map Error.lower⟩

theorem active_lower (state : State) : state.lower.active = state.active := rfl

section Directives

variable (manifest : Manifest) (state : State)

theorem get?_lower (constants : NameMap Bool) (name : String) :
    (constants.respell .lower).get? (Name.key name) = constants.get? name := by
  rw [Dictionary.get?_respell]
  exact constants.get?_congr (Name.key_key name)

theorem condition_lower (constants : NameMap Bool) (tokens : List Token) :
    condition (constants.respell .lower) manifest (tokens.map Token.lower) =
      (condition constants manifest tokens).mapError Problem.lower := by
  fun_induction condition constants manifest tokens with
  | case1 | case2 | case3 => rfl
  | case4 name value hname =>
      simp only [List.map_cons, List.map_nil, Token.lower, condition, get?_lower,
        Manifest.flag?_key, hname]
      rfl
  | case5 name hname =>
      simp only [List.map_cons, List.map_nil, Token.lower, condition, get?_lower,
        Manifest.flag?_key, hname]
      rfl
  | case6 token hnotTrue hnotFalse hnotName =>
      simp only [List.map_cons, List.map_nil]
      cases token with
      | keyword word =>
          cases word with
          | true => exact (hnotTrue rfl).elim
          | false => exact (hnotFalse rfl).elim
          | _ => rfl
      | identifier name => exact absurd rfl (hnotName name)
      | _ => rfl
  | case7 rest hsingle ih =>
      cases rest with
      | nil => exact (hsingle rfl).elim
      | cons token rest =>
          rw [List.map_cons, Token.lower, List.map_cons, condition, ← List.map_cons, ih]
          · cases condition constants manifest (token :: rest) <;> rfl
          · intro hempty
            cases hempty
          · intro other hother
            cases hother
  | case8 rest hempty hsingle hnot =>
      rcases rest with _ | ⟨first, _ | ⟨second, rest⟩⟩
      · exact (hempty rfl).elim
      · exact (hsingle first rfl).elim
      · cases first with
        | keyword word =>
            cases word with
            | not => exact (hnot _ rfl).elim
            | _ => rfl
        | _ => rfl

theorem decided_lower (result : Except Problem Bool) :
    decided (result.mapError Problem.lower) =
      Prod.map id (List.map Problem.lower) (decided result) := by
  cases result <;> rfl

theorem define_lower (arguments : List Token) :
    define manifest state.lower (arguments.map Token.lower) =
      Prod.map State.lower (List.map Problem.lower) (define manifest state arguments) := by
  fun_cases define manifest state arguments
  case case1 name value truth htruth =>
    have hvalue := condition_lower manifest state.constants [value]
    rw [htruth, List.map_singleton] at hvalue
    simp only [List.map_cons, List.map_nil, Token.lower_identifier, Token.lower_symbol, define,
      State.lower, hvalue, Except.mapError, Prod.map, Dictionary.respell_insert]
    rfl
  case case2 name value problem hproblem =>
    have hvalue := condition_lower manifest state.constants [value]
    rw [hproblem, List.map_singleton] at hvalue
    simp only [List.map_cons, List.map_nil, Token.lower_identifier, Token.lower_symbol, define,
      State.lower, hvalue, Except.mapError, Prod.map]
  case case3 hmalformed =>
    unfold define
    split
    · rename_i hshape
      simp only [List.map_eq_cons_iff, List.map_eq_nil_iff] at hshape
      obtain ⟨first, _, rfl, hname, second, _, rfl, hequal, value, _, rfl, -, rfl⟩ := hshape
      obtain ⟨spelling, rfl, -⟩ := Token.lower_eq_identifier_iff.mp hname
      obtain rfl := (Token.lower_eq_iff (by simp)).mp hequal
      exact (hmalformed _ _ rfl).elim
    · rfl

theorem openBranching_lower (span : Span) (arguments : List Token) :
    openBranching manifest state.lower span (arguments.map Token.lower) =
      Prod.map State.lower (List.map Problem.lower)
        (openBranching manifest state span arguments) := by
  by_cases hactive : state.active = true
  · simp only [openBranching, active_lower, hactive, if_true]
    simp only [State.lower, condition_lower, decided_lower]
    rfl
  · simp only [openBranching, active_lower, hactive]
    rfl

theorem nextBranch_lower (directive : String) (elseIf? : Option (List Token)) :
    nextBranch manifest state.lower directive (elseIf?.map (List.map Token.lower)) =
      Prod.map State.lower (List.map Problem.lower)
        (nextBranch manifest state directive elseIf?) := by
  simp only [nextBranch]
  cases hbranchings : state.branchings with
  | nil => simp [State.lower, hbranchings, Problem.lower]
  | cons branching outer =>
      simp only [State.lower, hbranchings]
      split
      · simp [Problem.lower, State.lower, hbranchings]
      cases elseIf? with
      | none => rfl
      | some arguments =>
          simp only [Option.map_some]
          split
          · simp only [condition_lower, decided_lower]
            rfl
          · rfl

theorem closeBranching_lower (directive : String) (wellFormed : Bool) :
    closeBranching state.lower directive wellFormed =
      Prod.map State.lower (List.map Problem.lower)
        (closeBranching state directive wellFormed) := by
  simp only [closeBranching]
  split
  · rfl
  cases hbranchings : state.branchings with
  | nil => simp [State.lower, hbranchings, Problem.lower]
  | cons branching outer => simp [State.lower, hbranchings]

theorem obey_lower (span : Span) (directive : String) (arguments : List Token) :
    obey manifest state.lower span directive (arguments.map Token.lower) =
      Prod.map State.lower (List.map Problem.lower)
        (obey manifest state span directive arguments) := by
  fun_cases obey manifest state span directive arguments
  case case1 hactive =>
    simpa only [obey, active_lower, hactive, if_true] using define_lower manifest state arguments
  case case2 hactive => simp only [obey, active_lower, hactive]; rfl
  case case3 => exact openBranching_lower manifest state span arguments
  case case4 => exact nextBranch_lower manifest state "elseif" (some arguments)
  case case5 rest => exact nextBranch_lower manifest state "else" (some rest)
  case case6 hother =>
    have hother' : ∀ rest, arguments.map Token.lower = .keyword .if :: rest → False := by
      intro rest hrest
      obtain ⟨first, behind, rfl, hfirst, -⟩ := List.map_eq_cons_iff.mp hrest
      obtain rfl := (Token.lower_eq_iff (by simp)).mp hfirst
      exact hother behind rfl
    simp only [obey]
    exact nextBranch_lower manifest state "else" none
  case case7 =>
    simp only [obey, List.isEmpty_map]
    exact closeBranching_lower state "endif" _
  case case8 =>
    have hif : ∀ token : Token, token.lower = .keyword .if ↔ token = .keyword .if :=
      fun _ => Token.lower_eq_iff (by simp)
    have hend : (arguments.map Token.lower == [.keyword .if]) = (arguments == [.keyword .if]) := by
      rw [Bool.eq_iff_iff, beq_iff_eq, beq_iff_eq, List.map_eq_singleton_iff]
      simp only [hif, exists_eq_right]
    simp only [obey, hend]
    exact closeBranching_lower state "end" _
  case case9 hactive | case10 hactive =>
    simp only [obey, active_lower, hactive]
    rfl
  case case11 hactive _ _ _ _ _ _ _ | case12 hactive _ _ _ _ _ _ _ =>
    simp only [obey, active_lower, hactive]
    rfl

end Directives

theorem token_lower_eq_newline (lexeme : Lexeme) :
    lexeme.lower.token = .newline ↔ lexeme.token = .newline :=
  Token.lower_eq_iff (by simp)

theorem splitLines_lower (lexemes : List Lexeme) :
    splitLines (lexemes.map Lexeme.lower) = (splitLines lexemes).map (List.map Lexeme.lower) := by
  induction lexemes with
  | nil => rfl
  | cons lexeme rest ih =>
      simp only [List.map_cons, splitLines, token_lower_eq_newline, ih]
      split
      · rfl
      · cases splitLines rest <;> rfl

theorem lineBreaks_lower (line : List Lexeme) :
    lineBreaks (line.map Lexeme.lower) = (lineBreaks line).map Lexeme.lower := by
  simp only [lineBreaks, List.filter_map, Function.comp_def, token_lower_eq_newline]

theorem processLine_lower (manifest : Manifest) (state : State) (line : List Lexeme) :
    processLine manifest state.lower (line.map Lexeme.lower) =
      (processLine manifest state line).lower := by
  fun_cases processLine manifest state line
  case case1 directive span rest arguments next problems hobey =>
    have hrest : ((rest.map Lexeme.lower).filter (·.token ≠ .newline)).map Lexeme.token =
        arguments.map Token.lower := by
      simp only [arguments, List.filter_map, Function.comp_def, token_lower_eq_newline, ne_eq,
        List.map_map]
      rfl
    have hlower := obey_lower manifest state span directive arguments
    rw [hobey] at hlower
    have hline : (⟨.directive directive, span⟩ :: rest).map Lexeme.lower =
        ⟨.directive directive, span⟩ :: rest.map Lexeme.lower := rfl
    rw [Progress.lower, ← lineBreaks_lower, hline]
    simp only [processLine, hrest, hlower, Prod.map, List.map_map]
    rfl
  case case2 htext =>
    have htext' : ∀ directive span rest,
        line.map Lexeme.lower = ⟨.directive directive, span⟩ :: rest → False := by
      intro directive span rest hline
      obtain ⟨⟨token, span'⟩, behind, rfl, hfirst, -⟩ := List.map_eq_cons_iff.mp hline
      obtain rfl := (Token.lower_eq_iff (by simp)).mp (congrArg Lexeme.token hfirst)
      exact htext directive span' behind rfl
    simp only [processLine, active_lower, lineBreaks_lower, Progress.lower]
    split <;> rfl

theorem processLines_lower (manifest : Manifest) (state : State) (lines : List (List Lexeme)) :
    processLines manifest state.lower (lines.map (List.map Lexeme.lower)) =
      (processLines manifest state lines).lower := by
  induction lines generalizing state with
  | nil => rfl
  | cons line lines ih =>
      simp only [List.map_cons, processLines, processLine_lower, Progress.lower, ih,
        List.map_append]

theorem select_lower (manifest : Manifest) (lexemes : List Lexeme) :
    select manifest (lexemes.map Lexeme.lower) =
      ((select manifest lexemes).map (List.map Lexeme.lower)).mapError (List.map Error.lower) := by
  have hlines := processLines_lower manifest {} (splitLines lexemes)
  have hstart : ({} : State).lower = {} := rfl
  rw [hstart, ← splitLines_lower] at hlines
  unfold select
  rw [hlines]
  generalize processLines manifest {} (splitLines lexemes) = progress
  let terminated (branching : Branching) : Error := ⟨branching.span, .unterminated⟩
  have herrors : progress.lower.errors ++ progress.lower.state.branchings.reverse.map terminated =
      (progress.errors ++ progress.state.branchings.reverse.map terminated).map Error.lower := by
    rw [List.map_append, List.map_map]
    rfl
  simp only [terminated] at herrors
  simp only [herrors]
  generalize progress.errors ++ progress.state.branchings.reverse.map terminated = errors
  cases errors <;> rfl

end Conditional

end BrightScript
