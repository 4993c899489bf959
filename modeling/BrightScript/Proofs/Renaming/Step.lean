import BrightScript.Proofs.Renaming.Operation

namespace BrightScript.Evaluator

variable {π : Equiv.Perm Handle} {machine mirror : Machine}

theorem agrees_readVariable (hmachine : machine.Mirrors π mirror) (span : Span) (name : String) :
    Run.Agrees SameValue machine mirror (readVariable span name machine)
      (readVariable span name mirror) := by
  unfold readVariable
  rw [Run.get_bind, Run.get_bind, hmachine.valueOf?_rename, hmachine.functions]
  cases hvalue : machine.valueOf? name with
  | some value => exact .pure hmachine ⟨rfl, hmachine.holds_valueOf? hvalue⟩
  | none =>
      dsimp only [Option.map_none]
      split
      · exact .fail hmachine (by simp [RuntimeError.Ordinary]) _
      · exact .fail hmachine (by simp [RuntimeError.Ordinary]) _

theorem agrees_object {α β : Type} {related : Equiv.Perm Handle → Heap → α → β → Prop}
    (hmachine : machine.Mirrors π mirror) (span : Span) (name : String) {value value' : Value}
    (hvalue : SameValue π machine.context.heap value value') {use : Handle → Run α}
    {use' : Handle → Run β}
    (huse : ∀ {handle : Handle}, machine.context.heap.isValid handle = true →
      Run.Agrees related machine mirror (use handle machine) (use' (π handle) mirror)) :
    Run.Agrees related machine mirror ((object span name value >>= use) machine)
      ((object span name value' >>= use') mirror) := by
  obtain ⟨rfl, hholds⟩ := hvalue
  cases value with
  | object handle => exact huse (Heap.holds_object.mp hholds)
  | _ => exact .fail hmachine (by simp [RuntimeError.Ordinary]) _

theorem agrees_truth (hmachine : machine.Mirrors π mirror) (span : Span) {value value' : Value}
    (hvalue : SameValue π machine.context.heap value value') :
    Run.Agrees (fun _ _ => Eq) machine mirror (truth span value machine)
      (truth span value' mirror) := by
  obtain ⟨rfl, hholds⟩ := hvalue
  cases value with
  | boolean value => exact .pure hmachine rfl
  | _ => exact .fail hmachine (by simp [RuntimeError.Ordinary]) _

theorem method_ordinary (error : MethodError) (herror : error.Ordinary) :
    (RuntimeError.method error).Ordinary :=
  fun hreleased => herror (RuntimeError.method.inj hreleased)

theorem agrees_callMethod (hmachine : machine.Mirrors π mirror) (span : Span) {receiver : Handle}
    (hreceiver : machine.context.heap.isValid receiver = true) (name : String)
    {arguments arguments' : List Value}
    (harguments : SameValues π machine.context.heap arguments arguments') :
    Run.Agrees SameValue machine mirror (callMethod span receiver name arguments machine)
      (callMethod span (π receiver) name arguments' mirror) := by
  obtain ⟨rfl, hholds⟩ := harguments
  have hticked := hmachine.tick
  have hcalled := hticked.heap.callMethod hticked.settled hreceiver hticked.covers_catalog name
    hholds
  rw [← hticked.catalog] at hcalled
  obtain ⟨hwarnings, -, σ, hlater, hheap, hresult⟩ := hcalled
  have hcall : Run.Agrees (fun σ heap => Agrees MethodError.Ordinary (SameValue σ heap))
      machine mirror (Run.withContext (RunContext.timed (callOn receiver name arguments)) machine)
      (Run.withContext (RunContext.timed
        (callOn (π receiver) name (arguments.map (Value.rename π)))) mirror) := by
    refine .withContext (σ := σ) ?_ hresult
    refine { hticked.withHeap hlater hheap with warnings := ?_ }
    exact congrArg₂ (· ++ ·) hmachine.warnings hwarnings
  refine hcall.bind ?_
  intro τ after after' value value' hafter hvalue
  exact .lift hafter span (hvalue.mapError method_ordinary)

theorem agrees_getMember (hmachine : machine.Mirrors π mirror) (span : Span) {handle : Handle}
    (hhandle : machine.context.heap.isValid handle = true) (name : String) :
    Run.Agrees SameValue machine mirror (getMember span handle name machine)
      (getMember span (π handle) name mirror) :=
  .lift hmachine span
    ((hmachine.heap.getMember hmachine.settled hhandle name).mapError method_ordinary)

theorem agrees_setMember (hmachine : machine.Mirrors π mirror) (span : Span) {handle : Handle}
    (hhandle : machine.context.heap.isValid handle = true) (name : String)
    {value value' : Value} (hvalue : SameValue π machine.context.heap value value') :
    Run.Agrees (fun _ _ => Eq) machine mirror (setMember span handle name value machine)
      (setMember span (π handle) name value' mirror) := by
  obtain ⟨rfl, hholds⟩ := hvalue
  obtain ⟨hlater, hheap, hresult⟩ :=
    hmachine.heap.writeMember hmachine.settled hhandle name hholds
  have hwrite : Run.Agrees (fun _ _ => Agrees MethodError.Ordinary Eq) machine mirror
      (Run.withContext (writeOn handle name value) machine)
      (Run.withContext (writeOn (π handle) name (value.rename π)) mirror) :=
    .withContext (σ := π) (hmachine.withHeap hlater hheap) hresult
  refine hwrite.bind ?_
  intro τ after after' result result' hafter hsame
  exact .lift hafter span (hsame.mapError method_ordinary)

theorem collect_eq (settings : Settings) (state : Machine) :
    collect settings state = .ok () (state.collect settings) := rfl

/-- Garbage is collected on one side only. -/
theorem agrees_collect (hmachine : machine.Mirrors π mirror) {settings settings' : Settings}
    (hnever : settings'.threshold = none) :
    Run.Agrees (fun _ _ => Eq) machine mirror (collect settings machine)
      (collect settings' mirror) := by
  have hmirror : mirror.collect settings' = mirror := by rw [Machine.collect, hnever]
  rw [collect_eq, collect_eq, hmirror]
  refine .ok (hmachine.collect settings) ?_ rfl rfl
  unfold Machine.collect
  split
  · rfl
  · split <;> rfl

theorem agrees_modify {σ : Equiv.Perm Handle} {change change' : Machine → Machine}
    (hafter : (change machine).Mirrors σ (change' mirror))
    (hkept : (change machine).temporaries = machine.temporaries)
    (hkept' : (change' mirror).temporaries = mirror.temporaries) :
    Run.Agrees (fun _ _ => Eq) machine mirror ((modify change : Run Unit) machine)
      ((modify change' : Run Unit) mirror) :=
  .ok hafter hkept hkept' rfl

theorem agrees_addResult (hmachine : machine.Mirrors π mirror) {value value' : Value}
    (hvalue : SameValue π machine.context.heap value value') :
    Run.Agrees (fun _ _ => Eq) machine mirror (addResult value machine)
      (addResult value' mirror) := by
  obtain ⟨rfl, hholds⟩ := hvalue
  exact agrees_modify (hmachine.addResult hholds) rfl rfl

theorem agrees_declareKind (hmachine : machine.Mirrors π mirror) (name : String)
    (base : Option String) {fields fields' : List (String × Value)}
    (hfields : SameFields π machine.context.heap fields fields') :
    Run.Agrees (fun _ _ => Eq) machine mirror
      (Run.withContext (fun context =>
        ((), { context with catalog := context.catalog.declare ⟨name, base, fields⟩ })) machine)
      (Run.withContext (fun context =>
        ((), { context with catalog := context.catalog.declare ⟨name, base, fields'⟩ }))
        mirror) := by
  obtain ⟨rfl, hholds⟩ := hfields
  exact .withContext (hmachine.declareKind hholds) rfl

theorem agrees_makeArray (hmachine : machine.Mirrors π mirror) {values values' : List Value}
    (hvalues : SameValues π machine.context.heap values values') :
    Run.Agrees SameValue machine mirror (Run.alloc (.array values.toArray) machine)
      (Run.alloc (.array values'.toArray) mirror) := by
  obtain ⟨rfl, hholds⟩ := hvalues
  have hrename : Component.array (values.map (Value.rename π)).toArray =
      (Component.array values.toArray).rename π := by
    simp [Component.rename]
  rw [hrename]
  exact .alloc hmachine (Heap.covers_array.mpr fun value hvalue =>
    hholds value (List.mem_toArray.mp hvalue))

theorem agrees_makeTable (hmachine : machine.Mirrors π mirror)
    {fields fields' : List (String × Value)}
    (hfields : SameFields π machine.context.heap fields fields') :
    Run.Agrees SameValue machine mirror (Run.alloc (.table (.ofList fields)) machine)
      (Run.alloc (.table (.ofList fields')) mirror) := by
  obtain ⟨rfl, hholds⟩ := hfields
  have hrename : Component.table (.ofList (renameFields π fields)) =
      (Component.table (.ofList fields)).rename π :=
    congrArg Component.table (Dictionary.ofList_map _ _)
  rw [hrename]
  refine .alloc hmachine (Heap.covers_table.mpr fun value hvalue => ?_)
  obtain ⟨field, hfield, rfl⟩ := List.mem_map.mp (Dictionary.mem_values_ofList hvalue)
  exact hholds field hfield

theorem agrees_builtin (hmachine : machine.Mirrors π mirror) (span : Span) (builtin : Builtin)
    (name : String) {arguments arguments' : List Value}
    (harguments : SameValues π machine.context.heap arguments arguments') :
    Run.Agrees SameValue machine mirror
      ((do Run.withContext (← Run.lift span (builtin.call .builtin name arguments)) : Run Value)
        machine)
      ((do Run.withContext (← Run.lift span (builtin.call .builtin name arguments')) : Run Value)
        mirror) := by
  obtain ⟨rfl, hholds⟩ := harguments
  have hagrees := builtin.agrees_call hmachine name hholds
  revert hagrees
  generalize builtin.call .builtin name arguments = result
  generalize builtin.call .builtin name (arguments.map (Value.rename π)) = result'
  intro hagrees
  cases hagrees with
  | ok haction => exact haction
  | error herror => exact .fail hmachine herror _

theorem agrees_assign (hmachine : machine.Mirrors π mirror) (name : String) {value value' : Value}
    (hvalue : SameValue π machine.context.heap value value') :
    Run.Agrees (fun _ _ => Eq) machine mirror
      ((modify (·.assign name value) : Run Unit) machine)
      ((modify (·.assign name value') : Run Unit) mirror) := by
  obtain ⟨rfl, hholds⟩ := hvalue
  refine agrees_modify (hmachine.assign name hholds) ?_ ?_
  · rw [Machine.assign_eq]
  · rw [Machine.assign_eq]

theorem agrees_print (hmachine : machine.Mirrors π mirror) {values values' : List Value}
    (hvalues : SameValues π machine.context.heap values values') :
    Run.Agrees (fun _ _ => Eq) machine mirror
      ((modify fun machine =>
        let line := " ".intercalate (values.map machine.display)
        { machine with context := machine.context.print line } : Run Unit) machine)
      ((modify fun machine =>
        let line := " ".intercalate (values'.map machine.display)
        { machine with context := machine.context.print line } : Run Unit) mirror) := by
  obtain ⟨rfl, hholds⟩ := hvalues
  exact agrees_modify (hmachine.print hholds) rfl rfl

theorem mirrors_hoist (hmachine : machine.Mirrors π mirror) (statements : List Statement) :
    (hoist machine statements).Mirrors π (hoist mirror statements) := by
  unfold hoist
  induction statements generalizing machine mirror with
  | nil => exact hmachine
  | cons statement statements ih =>
      rw [List.foldl_cons, List.foldl_cons]
      refine ih ?_
      split
      · exact hmachine.declare _
      · exact hmachine

theorem agrees_hoist (hmachine : machine.Mirrors π mirror) (statements : List Statement) :
    Run.Agrees (fun _ _ => Eq) machine mirror ((modify (hoist · statements) : Run Unit) machine)
      ((modify (hoist · statements) : Run Unit) mirror) :=
  agrees_modify (mirrors_hoist hmachine statements) (temporaries_hoist _ _) (temporaries_hoist _ _)

end BrightScript.Evaluator
