import BrightScript.Proofs.Channel.History
import BrightScript.Proofs.Evaluator.Steps
import BrightScript.Proofs.Respelling.Evaluator

namespace BrightScript

namespace Watched

variable {α β : Type}

theorem Parallel.history_eq {pairing : Pairing} {first second : Watched α}
    (hparallel : Parallel pairing first second) {machine other : Machine}
    (hmachine : machine.Respelled pairing other) :
    second.history other = first.history machine := by
  have hcontexts := congrArg
    (List.map fun context : RunContext => (context.output, context.files, context.warnings))
    (hparallel.contexts_eq hmachine)
  simp only [contexts, List.map_map] at hcontexts
  rw [history, history, Launch.visible, Launch.visible, hmachine.context]
  exact congrArg _ hcontexts

end Watched

/-- Two results are values that are the same, in states that are related, or the same fault but for
the spelling of names, in the same context. -/
inductive Run.Accords (spelling : Respelling) {α : Type} (related : α → Machine → Machine → Prop) :
    EStateM.Result Fault Machine α → EStateM.Result Fault Machine α → Prop
  | ok {value : α} {after after' : Machine} (hrelated : related value after after') :
      Accords spelling related (.ok value after) (.ok value after')
  | error {fault fault' : Fault} {after after' : Machine}
      (hcontext : after'.context = after.context) (hfault : fault.Respelled spelling fault') :
      Accords spelling related (.error fault after) (.error fault' after')

namespace Run.Accords

variable {α β : Type} {pairing : Pairing} {spelling : Respelling}
  {related : α → Machine → Machine → Prop} {related' : β → Machine → Machine → Prop}
  {machine other : Machine}

theorem of_matches {result result' : EStateM.Result Fault Machine α}
    (hresult : Matches pairing result result') :
    Accords pairing.spelling (fun _ after after' => after.Respelled pairing after') result
      result' := by
  cases hresult with
  | ok hafter => exact .ok hafter
  | error hafter hfault => exact .error hafter.context hfault

theorem imp {weaker : α → Machine → Machine → Prop}
    {result result' : EStateM.Result Fault Machine α}
    (hresult : Accords spelling related result result')
    (himp : ∀ {value : α} {after after' : Machine}, related value after after' →
      weaker value after after') : Accords spelling weaker result result' := by
  cases hresult with
  | ok hrelated => exact .ok (himp hrelated)
  | error hcontext hfault => exact .error hcontext hfault

theorem bind {first second : Run α} {next next' : α → Run β}
    (hfirst : Accords spelling related (first machine) (second other))
    (hnext : ∀ {value : α} {after after' : Machine}, related value after after' →
      Accords spelling related' (next value after) (next' value after')) :
    Accords spelling related' ((first >>= next) machine) ((second >>= next') other) := by
  change Accords spelling related' (EStateM.bind first next machine)
    (EStateM.bind second next' other)
  unfold EStateM.bind
  revert hfirst
  generalize first machine = result
  generalize second other = result'
  intro hfirst
  cases hfirst with
  | ok hrelated => exact hnext hrelated
  | error hcontext hfault => exact .error hcontext hfault

end Run.Accords

namespace Watched

variable {α β : Type}

/-- Two computations end alike, and the host sees the same of both. -/
structure Accords (spelling : Respelling) (related : α → Machine → Machine → Prop)
    (machine other : Machine) (first second : Watched α) : Prop where
  result : Run.Accords spelling related (first.run machine) (second.run other)
  history_eq : second.history other = first.history machine

variable {pairing : Pairing} {spelling : Respelling} {related : α → Machine → Machine → Prop}
  {related' : β → Machine → Machine → Prop} {machine other : Machine}

theorem Parallel.accords {first second : Watched α} (hparallel : Parallel pairing first second)
    (hmachine : machine.Respelled pairing other) :
    Accords pairing.spelling (fun _ after after' => after.Respelled pairing after') machine other
      first second :=
  ⟨.of_matches (hparallel.run hmachine), hparallel.history_eq hmachine⟩

namespace Accords

theorem state_bind {next next' : Machine → Watched α}
    (hnext : Accords spelling related machine other (next machine) (next' other)) :
    Accords spelling related machine other (Watched.state >>= next) (Watched.state >>= next') :=
  ⟨hnext.result, hnext.history_eq⟩

theorem imp {weaker : α → Machine → Machine → Prop} {first second : Watched α}
    (haccords : Accords spelling related machine other first second)
    (himp : ∀ {value : α} {after after' : Machine}, related value after after' →
      weaker value after after') :
    Accords spelling weaker machine other first second :=
  ⟨haccords.result.imp himp, haccords.history_eq⟩

theorem pure {value : α} (hrelated : related value machine other) :
    Accords spelling related machine other (Pure.pure value) (Pure.pure value) :=
  ⟨.ok hrelated, rfl⟩

theorem bind {first second : Watched α} {next next' : α → Watched β}
    (hfirst : Accords spelling related machine other first second)
    (hnext : ∀ {value : α} {after after' : Machine}, related value after after' →
      Accords spelling related' after after' (next value) (next' value)) :
    Accords spelling related' machine other (first >>= next) (second >>= next') := by
  refine ⟨hfirst.result.bind fun hrelated => (hnext hrelated).result, ?_⟩
  rw [history_bind, history_bind, hfirst.history_eq]
  refine congrArg _ ?_
  have hresult := hfirst.result
  revert hresult
  generalize first.run machine = result
  generalize second.run other = result'
  intro hresult
  cases hresult with
  | ok hrelated => exact (hnext hrelated).history_eq
  | error => rfl

theorem once {first : Watched α} {value : α} {after : Machine}
    (hrun : first.run machine = .ok value after) (hsilent : first.history machine = [])
    {next : α → Watched β} {second : Watched β}
    (hnext : Accords spelling related' after other (next value) second) :
    Accords spelling related' machine other (first >>= next) second := by
  constructor
  · have hresult := hnext.result
    change Run.Accords spelling related' (EStateM.bind first.run (fun value => (next value).run)
      machine) _
    rw [EStateM.bind, hrun]
    exact hresult
  · rw [history_bind, hsilent, hrun, hnext.history_eq]
    rfl

end Accords

end Watched

/-- The entries of a list that do not belong to statements that are left out, where each statement
has one entry. What stands after the entries of the statements is kept. -/
def keptEntries {α : Type} (drops : Statement → Bool) : List Statement → List α → List α
  | [], entries => entries
  | _ :: _, [] => []
  | statement :: rest, entry :: entries =>
    if drops statement then keptEntries drops rest entries
    else entry :: keptEntries drops rest entries

section KeptEntries

variable {α β : Type} (drops : Statement → Bool)

theorem keptEntries_map (f : α → β) (statements : List Statement) (entries : List α) :
    keptEntries drops statements (entries.map f) =
      (keptEntries drops statements entries).map f := by
  induction statements generalizing entries with
  | nil => rfl
  | cons statement rest ih =>
      cases entries with
      | nil => rfl
      | cons entry entries =>
          simp only [List.map_cons, keptEntries, ih]
          split <;> rfl

theorem keptEntries_nil (statements : List Statement) :
    keptEntries drops statements ([] : List α) = [] := by
  cases statements <;> rfl

theorem keptEntries_append {statements : List Statement} {entries : List α}
    (hlength : entries.length = statements.length) (others : List α) :
    keptEntries drops statements (entries ++ others) =
      keptEntries drops statements entries ++ others := by
  induction statements generalizing entries with
  | nil =>
      rw [List.eq_nil_of_length_eq_zero hlength]
      rfl
  | cons statement rest ih =>
      obtain ⟨entry, entries, rfl⟩ := List.exists_cons_of_length_eq_add_one hlength
      rw [List.length_cons, List.length_cons, Nat.add_right_cancel_iff] at hlength
      simp only [List.cons_append, keptEntries, ih hlength]
      split <;> rfl

theorem keptEntries_never (statements : List Statement) (entries : List α) :
    keptEntries (fun _ => false) statements entries = entries := by
  induction statements generalizing entries with
  | nil => rfl
  | cons statement rest ih =>
      cases entries with
      | nil => rfl
      | cons entry entries => rw [keptEntries, if_neg Bool.false_ne_true, ih entries]

end KeptEntries

/-- What is kept after some more results were found. -/
def Pairing.found (pairing : Pairing) (values others : List Value) : Pairing :=
  { pairing with
    results := values.reverse ++ pairing.results
    others := others.reverse ++ pairing.others }

theorem Pairing.found_found (pairing : Pairing) (values others values' others' : List Value) :
    (pairing.found values others).found values' others' =
      pairing.found (values ++ values') (others ++ others') := by
  simp only [found, List.reverse_append, List.append_assoc]

/-- What a statement has to be like for a program to run beside one without it or with its names
respelled: it declares a pinned function and garbage is never collected, or it declares no other
function in place of a pinned one. -/
structure Statement.Admissible (settings : Settings) (pinned : List Function)
    (drops : Statement → Bool) (statement : Statement) : Prop where
  kept : drops statement = false → Spares pinned statement.declaredNames
  dropped : drops statement = true → ∃ function ∈ pinned, statement.function? = some function
  never : drops statement = true → settings.threshold = none

namespace Machine.Respelled

variable {pairing : Pairing} {machine other : Machine}

theorem addResult (hmachine : machine.Respelled pairing other) (value : Value) :
    Respelled (pairing.found [value] [value])
      { machine with results := value :: machine.results }
      { other with results := value :: other.results } :=
  { hmachine with
    results := congrArg (value :: ·) hmachine.results
    others := congrArg (value :: ·) hmachine.others
    handles := by
      change Value.handles ([value] ++ _) = Value.handles ([value] ++ _)
      simp only [Value.handles, List.filterMap_append]
      exact congrArg _ hmachine.handles }

theorem addResultOnce (hmachine : machine.Respelled pairing other) :
    Respelled (pairing.found [.invalid] [])
      { machine with results := .invalid :: machine.results } other :=
  { hmachine with
    results := congrArg (Value.invalid :: ·) hmachine.results
    handles := hmachine.handles }

end Machine.Respelled

namespace Evaluator.Watch

variable {settings : Settings} {pairing : Pairing} {drops : Statement → Bool}
  {machine other : Machine}

/-- The states after the top-level statements: a result was found for each one up to the last that
was executed. -/
def Reached (pairing : Pairing) (drops : Statement → Bool) (statements : List Statement)
    (finished : Bool) (after after' : Machine) : Prop :=
  ∃ values : List Value, (finished = true → values.length = statements.length) ∧
    after.Respelled (pairing.found values (keptEntries drops statements values)) after'

theorem Reached.cons {statement : Statement} {rest : List Statement} (value : Value)
    {finished : Bool} {after after' : Machine}
    (hreached : Reached (pairing.found [value] (if drops statement then [] else [value])) drops rest
      finished after after') :
    Reached pairing drops (statement :: rest) finished after after' := by
  obtain ⟨values, hfinished, hafter⟩ := hreached
  refine ⟨value :: values, fun hend => congrArg (· + 1) (hfinished hend), ?_⟩
  rw [Pairing.found_found] at hafter
  rw [keptEntries]
  split
  case isTrue hdrops =>
      rw [if_pos hdrops] at hafter
      exact hafter
  case isFalse hdrops =>
      rw [if_neg hdrops] at hafter
      exact hafter

theorem respell_ne_expression {spelling : Respelling} {statement : Statement}
    (hother : ∀ span expression, statement = .expression span expression → False) (span : Span)
    (expression : Expression) (hsame : statement.respell spelling = .expression span expression) :
    False := by
  cases statement with
  | expression span expression => exact hother span expression rfl
  | _ => simp [Statement.respell] at hsame

theorem accords_addResult (hmachine : machine.Respelled pairing other) (value : Value) :
    Watched.Accords pairing.spelling
      (fun _ after after' => after.Respelled (pairing.found [value] [value]) after')
      machine other (addResult value) (addResult value) := by
  refine ⟨.ok (hmachine.addResult value), ?_⟩
  rw [addResult, Watched.history_step rfl, Watched.history_step rfl]

theorem accords_goOn {statement : Statement} {rest rest' : List Statement}
    (hkept : drops statement = false) {value : Value}
    (hrest : ∀ {machine other : Machine}, machine.Respelled (pairing.found [value] [value]) other →
      Watched.Accords pairing.spelling (Reached (pairing.found [value] [value]) drops rest)
        machine other (executeProgram settings rest) (executeProgram settings rest'))
    (hmachine : machine.Respelled pairing other) :
    Watched.Accords pairing.spelling (Reached pairing drops (statement :: rest)) machine other
      (do
        addResult value
        .step [] (collect settings)
        executeProgram settings rest)
      (do
        addResult value
        .step [] (collect settings)
        executeProgram settings rest') := by
  refine (accords_addResult hmachine value).bind fun hadded => ?_
  refine (parallel_collect.accords hadded).bind fun hcollected => (hrest hcollected).imp ?_
  intro finished after after' hreached
  refine .cons value ?_
  rw [hkept, if_neg Bool.false_ne_true]
  exact hreached

theorem accords_stop {statement : Statement} {rest : List Statement}
    (hkept : drops statement = false) (value : Value) (hmachine : machine.Respelled pairing other) :
    Watched.Accords pairing.spelling (Reached pairing drops (statement :: rest)) machine other
      (do
        addResult value
        return false)
      (do
        addResult value
        return false) := by
  refine (accords_addResult hmachine value).bind fun hadded => .pure (.cons value ?_)
  rw [hkept, if_neg Bool.false_ne_true]
  refine ⟨[], Bool.noConfusion, ?_⟩
  rw [keptEntries_nil]
  exact hadded

theorem accords_declareAgain {statement : Statement} {rest : List Statement}
    {second : Watched Bool} (hstatement : statement.Admissible settings pairing.pinned drops)
    (hdropped : drops statement = true)
    (hrest : ∀ {machine : Machine}, machine.Respelled (pairing.found [.invalid] []) other →
      Watched.Accords pairing.spelling (Reached (pairing.found [.invalid] []) drops rest)
        machine other (executeProgram settings rest) second)
    (hmachine : machine.Respelled pairing other) :
    Watched.Accords pairing.spelling (Reached pairing drops (statement :: rest)) machine other
      (executeProgram settings (statement :: rest)) second := by
  obtain ⟨function, hpinned, hfunction⟩ := hstatement.dropped hdropped
  cases statement with
  | function span name parameters body isSub =>
      obtain rfl := Option.some.inj hfunction
      have hdeclared := hmachine.declareAgain hpinned
      have hcollected : ∀ state : Machine, collect settings state = .ok () state := by
        intro state
        rw [collect_eq, Machine.collect, hstatement.never hdropped]
      simp only [executeProgram, execute]
      refine .once rfl (Watched.history_bind_pure (Watched.history_step rfl)) ?_
      refine .once rfl (Watched.history_step rfl) ?_
      refine .once (hcollected _) (Watched.history_step (by rw [hcollected]; rfl)) ?_
      refine (hrest hdeclared.addResultOnce).imp fun hreached => ?_
      refine .cons .invalid ?_
      rw [if_pos hdropped]
      exact hreached
  | _ => cases hfunction

/-- The top-level statements run in parallel to those of them that are kept, with their names
respelled. -/
theorem accords_executeProgram {statements : List Statement}
    (hmachine : machine.Respelled pairing other)
    (hadmissible : ∀ statement ∈ statements,
      statement.Admissible settings pairing.pinned drops) :
    Watched.Accords pairing.spelling (Reached pairing drops statements) machine other
      (executeProgram settings statements)
      (executeProgram settings
        ((statements.filter (!drops ·)).map (Statement.respell pairing.spelling))) := by
  induction statements using executeProgram.induct generalizing pairing machine other with
  | case1 => exact .pure ⟨[], fun _ => rfl, hmachine⟩
  | case2 span expression rest ih =>
      obtain ⟨hstatement, hrest⟩ := List.forall_mem_cons.mp hadmissible
      cases hkept : drops (.expression span expression) with
      | true =>
          rw [List.filter_cons_of_neg (by simp [hkept])]
          -- only declarations are dropped, and of those only such as are known already
          exact accords_declareAgain hstatement hkept (fun hafter => ih hafter hrest) hmachine
      | false =>
          rw [List.filter_cons_of_pos (by simp [hkept]), List.map_cons, Statement.respell]
          simp only [executeProgram]
          have hvalue := (@parallel_expressions pairing settings _ _
            (@parallel_callFunction pairing settings)).1 expression
          refine (hvalue.accords hmachine).bind fun hafter => ?_
          exact accords_goOn hkept (fun hnext => ih hnext hrest) hafter
  | case3 statement rest hother ih =>
      obtain ⟨hstatement, hrest⟩ := List.forall_mem_cons.mp hadmissible
      cases hkept : drops statement with
      | true =>
          rw [List.filter_cons_of_neg (by simp [hkept])]
          exact accords_declareAgain hstatement hkept (fun hafter => ih hafter hrest) hmachine
      | false =>
          have hother' := @respell_ne_expression pairing.spelling _ hother
          rw [List.filter_cons_of_pos (by simp [hkept]), List.map_cons]
          simp only [executeProgram]
          have hflow := (@parallel_statements pairing settings _ _
            (@parallel_callFunction pairing settings)).1 statement (hstatement.kept hkept)
          refine (hflow.accords hmachine).bind fun {flow _ _} hafter => ?_
          cases flow with
          | next => exact accords_goOn hkept (fun hnext => ih hnext hrest) hafter
          | «return» value => exact accords_stop hkept value hafter

theorem accords_callEntry (hmachine : machine.Respelled pairing other) :
    Watched.Accords pairing.spelling
      (fun _ after after' => ∃ values, after.Respelled (pairing.found values values) after')
      machine other (callEntry settings) (callEntry settings) := by
  have hentry : entryPoints.findSome? other.functions.get? =
      (entryPoints.findSome? machine.functions.get?).map (Function.respell pairing.spelling) := by
    rw [List.map_findSome?]
    exact congrArg (List.findSome? · entryPoints) (funext hmachine.functions)
  unfold callEntry
  refine .state_bind ?_
  rw [hentry]
  cases hfound : entryPoints.findSome? machine.functions.get? with
  | none => exact .pure ⟨[], hmachine⟩
  | some function =>
      obtain ⟨name, -, hname⟩ := List.exists_of_findSome?_eq_some hfound
      have hcall := fun arguments => @parallel_callFunction pairing settings function arguments none
        (hmachine.spared hname)
      have hparameters : (function.respell pairing.spelling).parameters =
          function.parameters.map pairing.spelling := rfl
      simp only [Option.map_some, hparameters, hmachine.scope]
      generalize function.parameters = parameters
      rcases parameters with _ | ⟨parameter, _ | ⟨second, rest⟩⟩
      · refine ((hcall []).accords hmachine).bind fun {value _ _} hafter => ?_
        exact (accords_addResult hafter value).imp fun hadded => ⟨[value], hadded⟩
      · refine ((hcall [.object machine.scope]).accords hmachine).bind fun {value _ _} hafter => ?_
        exact (accords_addResult hafter value).imp fun hadded => ⟨[value], hadded⟩
      · have hfail : Watched.Parallel pairing
            (Watched.step [] (Run.fail (.entryArity function.name) none : Run Unit))
            (Watched.step []
              (Run.fail (.entryArity (function.respell pairing.spelling).name) none)) :=
          .step (.failRespelled _ none)
        exact (hfail.accords hmachine).imp fun hafter => ⟨[], hafter⟩

/-- Runs a program whose functions are declared already. -/
def runHoisted (settings : Settings) (statements : List Statement) : Watched Unit := do
  if ← executeProgram settings statements then callEntry settings

/-- The states in which programs end: the results are the same but for those of the statements that
are left out. -/
structure Finished (pairing : Pairing) (drops : Statement → Bool) (statements : List Statement)
    (after after' : Machine) : Prop where
  context_eq : after'.context = after.context
  results : ∃ values : List Value, after.results = values.reverse ++ pairing.results ∧
    after'.results = (keptEntries drops statements values).reverse ++ pairing.others

/-- A program runs in parallel to the one in which names are respelled and declarations are left
out, once all functions are declared. -/
theorem accords_runHoisted {statements : List Statement}
    (hmachine : machine.Respelled pairing other)
    (hadmissible : ∀ statement ∈ statements,
      statement.Admissible settings pairing.pinned drops) :
    Watched.Accords pairing.spelling (fun _ => Finished pairing drops statements) machine other
      (runHoisted settings statements)
      (runHoisted settings
        ((statements.filter (!drops ·)).map (Statement.respell pairing.spelling))) := by
  refine (accords_executeProgram hmachine hadmissible).bind fun {finished _ _} hreached => ?_
  obtain ⟨values, hlength, hafter⟩ := hreached
  cases finished with
  | false => exact .pure ⟨hafter.context, values, hafter.results, hafter.others⟩
  | true =>
      refine (accords_callEntry hafter).imp ?_
      rintro - after after' ⟨entry, hend⟩
      rw [Pairing.found_found, ← keptEntries_append drops (hlength rfl)] at hend
      exact ⟨hend.context, values ++ entry, hend.results, hend.others⟩

theorem history_runProgram (statements : List Statement) (machine : Machine) :
    (runProgram settings statements).history machine =
      (runHoisted settings statements).history (hoist machine statements) := by
  have hsilent :
      (Watched.step [] (modify (hoist · statements) : Run Unit)).history machine = [] := by
    refine Watched.history_step ?_
    change Launch.visible ⟨hoist machine statements, []⟩ = _
    rw [Launch.visible, context_hoist]
    rfl
  change (Watched.step [] (modify (hoist · statements)) >>=
    fun _ => runHoisted settings statements).history machine = _
  rw [Watched.history_bind, hsilent]
  rfl

theorem runProgram_eq_runHoisted (statements : List Statement) (machine : Machine) :
    Evaluator.runProgram settings statements machine =
      (runHoisted settings statements).run (hoist machine statements) := by
  rw [← run_runProgram]
  rfl

theorem accords_runProgram {spelling : Respelling} {related : Unit → Machine → Machine → Prop}
    {statements statements' : List Statement}
    (haccords : Watched.Accords spelling related (hoist machine statements)
      (hoist other statements') (runHoisted settings statements)
      (runHoisted settings statements')) :
    Watched.Accords spelling related machine other (runProgram settings statements)
      (runProgram settings statements') := by
  refine ⟨haccords.result, ?_⟩
  rw [history_runProgram, history_runProgram]
  exact haccords.history_eq

end Evaluator.Watch

end BrightScript
