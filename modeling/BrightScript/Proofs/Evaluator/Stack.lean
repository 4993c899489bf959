import BrightScript.Proofs.Evaluator.Discipline

namespace BrightScript

open Procedure (leaving)

variable {settings : Settings} {call : Evaluator.Caller} {access : Access} {α β : Type}
  {machine after : Machine}

namespace Run

def push (value : Value) : Run Unit := modify (·.hold value)

/-- Takes the latest value from the stack. -/
def pop : Run Value := modifyGet fun machine =>
  (machine.temporaries.head?.getD .invalid,
    { machine with temporaries := machine.temporaries.tail })

/-- Takes the values above a height from the stack, the earliest first. -/
def drain (height : Nat) : Run (List Value) := modifyGet fun machine =>
  let above := machine.temporaries.length - height
  ((machine.temporaries.take above).reverse,
    { machine with temporaries := machine.temporaries.drop above })

/-- Drops the values above a height. -/
def truncate (height : Nat) : Run Unit := do
  let _ ← drain height

/-- Runs with a value on the stack, and takes the value from the stack afterwards. -/
def heldBack (value : Value) (body : Run α) : Run (Value × α) := fun machine =>
  match body (machine.hold value) with
  | .ok result after => (do return (← pop, result) : Run (Value × α)) after
  | .error fault after => (do let _ ← pop; throw fault : Run (Value × α)) after

/-- Where one computation succeeds or fails, the other does too, with the same result. -/
def Imitates (run other : Run α) : Prop :=
  ∀ machine, machine.frames ≠ [] →
    (∀ value after, other machine = .ok value after → run machine = .ok value after) ∧
    ∀ fault after, other machine = .error fault after → ∃ left, run machine = .error fault left

theorem bind_eq_error_iff {first : Run α} {next : α → Run β} {fault : Fault} :
    (first >>= next) machine = .error fault after ↔ first machine = .error fault after ∨
      ∃ inner middle, first machine = .ok inner middle ∧
        next inner middle = .error fault after := by
  change EStateM.bind first next machine = _ ↔ _
  unfold EStateM.bind
  cases first machine with
  | ok value middle => simp
  | error fault middle => simp

theorem bracket_eq_error_iff {start finish : Machine → Machine} {body : Run α} {fault : Fault} :
    Run.bracket start finish body machine = .error fault after ↔
      ∃ inner, body (start machine) = .error fault inner ∧ finish inner = after := by
  rw [bracket_eq_leaving]
  cases body (start machine) with
  | ok value middle => simp [Procedure.leaving]
  | error fault middle => simp [Procedure.leaving]

theorem heldBack_imitates {body : Run α} (hbody : body.Restores access) (value : Value) :
    Imitates (heldBack value body) (Prod.mk value <$> holding value body) := by
  intro machine hframes
  constructor
  · intro pair after hrun
    obtain ⟨result, middle, hmiddle, hpair⟩ := bind_eq_ok_iff.mp hrun
    obtain ⟨last, hlast, rfl⟩ := bracket_eq_ok_iff.mp hmiddle
    obtain ⟨rfl, rfl⟩ := EStateM.Result.ok.inj hpair
    have hresult : body (machine.hold value) = .ok result last := hlast
    have hpushed : last.temporaries = value :: machine.temporaries :=
      hbody.temporaries (machine.hold value) hframes hresult
    have hpop : pop last =
        .ok value { last with temporaries := last.temporaries.tail } := by
      change EStateM.Result.ok (last.temporaries.head?.getD .invalid) _ = _
      rw [hpushed, List.head?_cons, Option.getD_some]
    unfold heldBack
    rw [hresult]
    exact bind_eq_ok_iff.mpr ⟨value, _, hpop, rfl⟩
  · intro fault after hrun
    have hfailed : holding value body machine = .error fault after :=
      (bind_eq_error_iff.mp hrun).elim id fun ⟨_, _, _, hpair⟩ => nomatch hpair
    obtain ⟨last, hlast, -⟩ := bracket_eq_error_iff.mp hfailed
    have hfault : body (machine.hold value) = .error fault last := hlast
    unfold heldBack
    rw [hfault]
    exact ⟨_, rfl⟩

theorem drain_of_pushed {values temporaries : List Value}
    (hpushed : machine.temporaries = values.reverse ++ temporaries) :
    drain temporaries.length machine =
      .ok values { machine with temporaries := temporaries } := by
  have habove : machine.temporaries.length - temporaries.length = values.reverse.length := by
    rw [hpushed, List.length_append, Nat.add_sub_cancel]
  change EStateM.Result.ok (machine.temporaries.take _).reverse
    { machine with temporaries := machine.temporaries.drop _ } = _
  rw [habove, hpushed, List.take_left, List.drop_left, List.reverse_reverse]

theorem holding_map (value : Value) (change : α → β) (body : Run α) :
    holding value (change <$> body) = change <$> holding value body := by
  funext machine
  change bracket _ _ _ _ = EStateM.map change (bracket _ _ body) machine
  unfold EStateM.map
  rw [bracket_eq_leaving, bracket_eq_leaving]
  change Procedure.leaving _ (EStateM.map change body _) = _
  unfold EStateM.map
  cases body { machine with temporaries := value :: machine.temporaries } <;> rfl

end Run

namespace Evaluator

/-- Evaluates expressions from left to right, leaving their values on the stack. -/
def pushAll (settings : Settings) (call : Caller) : List Expression → Run (List Value)
  | [] => return []
  | expression :: rest => do
    let value ← evaluate settings call expression
    Run.push value
    return value :: (← pushAll settings call rest)

/-- Evaluates expressions from left to right and takes their values from the stack. -/
def drainAll (settings : Settings) (call : Caller) (expressions : List Expression) :
    Run (List Value) := fun machine =>
  match pushAll settings call expressions machine with
  | .ok _ after => Run.drain machine.temporaries.length after
  | .error fault after =>
    (do Run.truncate machine.temporaries.length; throw fault : Run (List Value)) after

/-- Evaluates named expressions from left to right and drops as many values from the stack. -/
def pinFields (settings : Settings) (call : Caller) (fields : List (String × Expression)) :
    Run (List (String × Value)) := do
  let values ← pushAll settings call (fields.map Prod.snd)
  Run.truncate ((← get).temporaries.length - fields.length)
  return (fields.map Prod.fst).zip values

theorem restores_evaluate (hcall : call.Composed settings) (expression : Expression) :
    (evaluate settings call expression).Restores .read :=
  (composed_evaluate hcall expression).restores

theorem restores_evaluateAll (hcall : call.Composed settings) (expressions : List Expression) :
    (evaluateAll settings call expressions).Restores .read :=
  (composed_evaluateAll hcall expressions).restores

theorem pushAll_of_ok (hcall : call.Composed settings) {expressions : List Expression}
    {values : List Value} (hframes : machine.frames ≠ [])
    (hvalues : evaluateAll settings call expressions machine = .ok values after) :
    pushAll settings call expressions machine =
      .ok values { after with temporaries := values.reverse ++ machine.temporaries } := by
  induction expressions generalizing machine after values with
  | nil =>
      obtain ⟨rfl, rfl⟩ := EStateM.Result.ok.inj hvalues
      rfl
  | cons expression rest ih =>
      rw [evaluateAll] at hvalues
      obtain ⟨value, middle, hvalue, hvalues⟩ := Run.bind_eq_ok_iff.mp hvalues
      obtain ⟨others, last, hothers, hvalues⟩ := Run.bind_eq_ok_iff.mp hvalues
      obtain ⟨inner, hinner, rfl⟩ := Run.bracket_eq_ok_iff.mp hothers
      obtain ⟨rfl, rfl⟩ := EStateM.Result.ok.inj hvalues
      have hrestores := restores_evaluate hcall expression
      have hmiddle := hrestores.height.frames_ne_nil hframes hvalue
      have hrest := ih (show (middle.hold value).frames ≠ [] from hmiddle) hinner
      rw [pushAll, List.reverse_cons, List.append_assoc, List.singleton_append,
        ← hrestores.temporaries _ hframes hvalue]
      refine Run.bind_eq_ok_iff.mpr ⟨value, middle, hvalue, ?_⟩
      refine Run.bind_eq_ok_iff.mpr ⟨⟨⟩, middle.hold value, rfl, ?_⟩
      exact Run.bind_eq_ok_iff.mpr ⟨others, _, hrest, rfl⟩

theorem pushAll_of_error (hcall : call.Composed settings) {expressions : List Expression}
    {fault : Fault} (hframes : machine.frames ≠ [])
    (hfault : evaluateAll settings call expressions machine = .error fault after) :
    ∃ left, pushAll settings call expressions machine = .error fault left := by
  induction expressions generalizing machine after with
  | nil => cases hfault
  | cons expression rest ih =>
      rw [evaluateAll] at hfault
      rw [pushAll]
      rcases Run.bind_eq_error_iff.mp hfault with hfirst | ⟨value, middle, hvalue, hfault⟩
      · exact ⟨after, Run.bind_eq_error_iff.mpr (.inl hfirst)⟩
      · rcases Run.bind_eq_error_iff.mp hfault with hothers | ⟨_, _, _, hreturn⟩
        · obtain ⟨inner, hinner, -⟩ := Run.bracket_eq_error_iff.mp hothers
          have hrestores := restores_evaluate hcall expression
          have hmiddle := hrestores.height.frames_ne_nil hframes hvalue
          obtain ⟨left, hleft⟩ := ih (show (middle.hold value).frames ≠ [] from hmiddle) hinner
          refine ⟨left, Run.bind_eq_error_iff.mpr (.inr ⟨value, middle, hvalue, ?_⟩)⟩
          refine Run.bind_eq_error_iff.mpr (.inr ⟨⟨⟩, middle.hold value, rfl, ?_⟩)
          exact Run.bind_eq_error_iff.mpr (.inl hleft)
        · cases hreturn

/-- One value for each expression, in the order of the expressions, where each is evaluated with the
values before it on the stack. -/
inductive InTurn (settings : Settings) (call : Caller) :
    List Expression → Machine → List Value → Machine → Prop
  | nil (machine : Machine) : InTurn settings call [] machine [] machine
  | cons {expression : Expression} {rest : List Expression} {machine middle last : Machine}
      {value : Value} {values : List Value}
      (hvalue : evaluate settings call expression machine = .ok value middle)
      (hrest : InTurn settings call rest (middle.hold value) values last) :
      InTurn settings call (expression :: rest) machine (value :: values) last

theorem inTurn_of_pushAll {expressions : List Expression} {values : List Value}
    (hpushed : pushAll settings call expressions machine = .ok values after) :
    InTurn settings call expressions machine values after := by
  induction expressions generalizing machine values with
  | nil =>
      obtain ⟨rfl, rfl⟩ := EStateM.Result.ok.inj hpushed
      exact .nil machine
  | cons expression rest ih =>
      rw [pushAll] at hpushed
      obtain ⟨value, middle, hvalue, hpushed⟩ := Run.bind_eq_ok_iff.mp hpushed
      obtain ⟨_, held, hheld, hpushed⟩ := Run.bind_eq_ok_iff.mp hpushed
      obtain rfl : middle.hold value = held := (EStateM.Result.ok.inj hheld).2
      obtain ⟨others, last, hothers, hreturn⟩ := Run.bind_eq_ok_iff.mp hpushed
      obtain ⟨rfl, rfl⟩ := EStateM.Result.ok.inj hreturn
      exact .cons hvalue (ih hothers)

theorem InTurn.length_eq {expressions : List Expression} {values : List Value}
    (hturn : InTurn settings call expressions machine values after) :
    values.length = expressions.length := by
  induction hturn with
  | nil machine => rfl
  | cons hvalue hrest ih => rw [List.length_cons, List.length_cons, ih]

theorem InTurn.temporaries_eq (hcall : call.Composed settings) {expressions : List Expression}
    {values : List Value} (hturn : InTurn settings call expressions machine values after)
    (hframes : machine.frames ≠ []) :
    after.temporaries = values.reverse ++ machine.temporaries := by
  induction hturn with
  | nil machine => rfl
  | @cons expression rest machine middle last value values hvalue hrest ih =>
      have hrestores := restores_evaluate hcall expression
      have hmiddle : middle.frames ≠ [] := hrestores.height.frames_ne_nil hframes hvalue
      rw [ih hmiddle, List.reverse_cons, List.append_assoc, List.singleton_append,
        ← hrestores.temporaries _ hframes hvalue]
      rfl

theorem drainAll_imitates (hcall : call.Composed settings) (expressions : List Expression) :
    Run.Imitates (drainAll settings call expressions) (evaluateAll settings call expressions) := by
  intro machine hframes
  constructor
  · intro values after hvalues
    have hrestores := restores_evaluateAll hcall expressions
    unfold drainAll
    rw [pushAll_of_ok hcall hframes hvalues, ← hrestores.temporaries _ hframes hvalues]
    exact Run.drain_of_pushed rfl
  · intro fault after hfault
    obtain ⟨left, hleft⟩ := pushAll_of_error hcall hframes hfault
    unfold drainAll
    rw [hleft]
    exact ⟨_, rfl⟩

theorem evaluateFields_eq (fields : List (String × Expression)) :
    evaluateFields settings call fields =
      (fields.map Prod.fst).zip <$> evaluateAll settings call (fields.map Prod.snd) := by
  induction fields with
  | nil => rfl
  | cons field rest ih =>
      obtain ⟨name, expression⟩ := field
      rw [evaluateFields, ih, List.map_cons, List.map_cons, evaluateAll, map_bind]
      refine bind_congr fun value => ?_
      rw [Run.holding_map, map_bind, bind_map_left]
      rfl

theorem pinFields_imitates (hcall : call.Composed settings) (fields : List (String × Expression)) :
    Run.Imitates (pinFields settings call fields) (evaluateFields settings call fields) := by
  intro machine hframes
  rw [evaluateFields_eq]
  constructor
  · intro pairs after hpairs
    obtain ⟨values, last, hvalues, hreturn⟩ := Run.bind_eq_ok_iff.mp hpairs
    obtain ⟨rfl, rfl⟩ := EStateM.Result.ok.inj hreturn
    have hrestores := restores_evaluateAll hcall (fields.map Prod.snd)
    have hpushed := pushAll_of_ok hcall hframes hvalues
    have hlength := (inTurn_of_pushAll hpushed).length_eq
    rw [List.length_map] at hlength
    refine Run.bind_eq_ok_iff.mpr ⟨values, _, hpushed, ?_⟩
    refine Run.bind_eq_ok_iff.mpr ⟨_, _, rfl, ?_⟩
    refine Run.bind_eq_ok_iff.mpr ⟨⟨⟩, last, ?_, rfl⟩
    refine Run.bind_eq_ok_iff.mpr ⟨values, last, ?_, rfl⟩
    rw [List.length_append, List.length_reverse, hlength, Nat.add_sub_cancel_left,
      ← hrestores.temporaries _ hframes hvalues]
    exact Run.drain_of_pushed rfl
  · intro fault after hfault
    have hvalues := (Run.bind_eq_error_iff.mp hfault).elim id fun ⟨_, _, _, hpair⟩ => nomatch hpair
    obtain ⟨left, hleft⟩ := pushAll_of_error hcall hframes hvalues
    exact ⟨left, Run.bind_eq_error_iff.mpr (.inl hleft)⟩

/-- The stacks are disciplined where calls are made in a certain way. -/
structure Disciplined (settings : Settings) (call : Caller) : Prop where
  evaluate_restores : ∀ expression, (evaluate settings call expression).Restores .read
  execute_restores : ∀ statement, (execute settings call statement).Restores .assign
  executeBlock_restores : ∀ statements, (executeBlock settings call statements).Restores .assign
  call_restores : ∀ function arguments span, (call function arguments span).Restores .read
  /-- A call ends in the same way whatever the variables of the calls under way are, as long as a
  collection cannot tell them apart, and leaves them as they are. -/
  call_shielded : ∀ function arguments span (machine : Machine) frames others,
    settings.Confuses frames others → ∃ result,
      call function arguments span { machine with frames := frames } =
        leaving (fun after : Machine => { after with frames := frames }) result ∧
      call function arguments span { machine with frames := others } =
        leaving (fun after : Machine => { after with frames := others }) result
  holding_imitated : ∀ value expression,
    Run.Imitates (Run.heldBack value (evaluate settings call expression))
      (Prod.mk value <$> Run.holding value (evaluate settings call expression))
  holdingAll_imitated : ∀ value expressions,
    Run.Imitates (Run.heldBack value (evaluateAll settings call expressions))
      (Prod.mk value <$> Run.holding value (evaluateAll settings call expressions))
  evaluateAll_imitated : ∀ expressions,
    Run.Imitates (drainAll settings call expressions) (evaluateAll settings call expressions)
  evaluateAll_inTurn : ∀ {expressions} {machine after : Machine} {values}, machine.frames ≠ [] →
    evaluateAll settings call expressions machine = .ok values after →
      values.length = expressions.length ∧ InTurn settings call expressions machine values
        { after with temporaries := values.reverse ++ machine.temporaries }
  evaluateFields_imitated : ∀ fields,
    Run.Imitates (pinFields settings call fields) (evaluateFields settings call fields)
  /-- The number of fields can be taken from the height of the stack. -/
  fields_length_le : ∀ {fields : List (String × Expression)} {machine after : Machine} {values},
    machine.frames ≠ [] →
    pushAll settings call (fields.map Prod.snd) machine = .ok values after →
      fields.length ≤ after.temporaries.length

/-- However deep calls are nested, they leave the stacks in order. -/
theorem callWithin_disciplined (settings : Settings) (depth : Nat) :
    Disciplined settings (callWithin settings depth) := by
  have hcall := composed_callWithin settings depth
  constructor
  case evaluate_restores => exact restores_evaluate hcall
  case execute_restores => exact fun statement => (composed_execute hcall statement).restores
  case executeBlock_restores =>
    exact fun statements => (composed_executeBlock hcall statements).restores
  case call_restores =>
    exact fun function arguments span => (hcall .read function arguments span).restores
  case call_shielded =>
    intro function arguments span machine frames others hsame
    obtain ⟨result, hheight, hframes, hothers⟩ := shielded_callWithin depth function arguments span
      { machine with frames := [] } frames others hsame
    have hempty : (Run.final result).frames = [] := List.length_eq_zero_iff.mp hheight
    refine ⟨result, hframes.trans ?_, hothers.trans ?_⟩
    · exact Machine.leaving_onto hempty frames
    · exact Machine.leaving_onto hempty others
  case holding_imitated =>
    exact fun value expression =>
      Run.heldBack_imitates (restores_evaluate hcall expression) value
  case holdingAll_imitated =>
    exact fun value expressions =>
      Run.heldBack_imitates (restores_evaluateAll hcall expressions) value
  case evaluateAll_imitated => exact drainAll_imitates hcall
  case evaluateAll_inTurn =>
    intro expressions machine after values hframes hvalues
    have hturn := inTurn_of_pushAll (pushAll_of_ok hcall hframes hvalues)
    exact ⟨hturn.length_eq, hturn⟩
  case evaluateFields_imitated => exact pinFields_imitates hcall
  case fields_length_le =>
    intro fields machine after values hframes hpushed
    have hturn := inTurn_of_pushAll hpushed
    have hlength := hturn.length_eq
    rw [List.length_map] at hlength
    rw [hturn.temporaries_eq hcall hframes, List.length_append, List.length_reverse, hlength]
    exact Nat.le_add_right _ _

end Evaluator

end BrightScript
