import BrightScript.Proofs.Channel.Launch

/-!
No handle dangles: whatever a running program holds resolves, at every moment and wherever it is
held. So no run fails because a component was released, and nothing is printed, named or shown as
released.
-/

namespace BrightScript

/-- A component holds a handle in one of its places. -/
inductive Component.Stores (handle : Handle) : Component → Prop
  | item {items : Array Value} (hitem : .object handle ∈ items) : Stores handle (.array items)
  | entry {entries : NameMap Value} (hentry : .object handle ∈ entries.values) :
      Stores handle (.table entries)
  | listItem {items : List Value} (hitem : .object handle ∈ items) : Stores handle (.list items)
  | element {data : XmlElement} (hchild : handle ∈ data.children) : Stores handle (.element data)
  | listed {elements : List Handle} (helement : handle ∈ elements) :
      Stores handle (.elementList elements)
  | field {data : Node} (hfield : .object handle ∈ data.fields.values) : Stores handle (.node data)
  | child {data : Node} (hchild : handle ∈ data.children) : Stores handle (.node data)
  | parent {data : Node} (hparent : data.parent = some handle) : Stores handle (.node data)
  | hostField {object : HostObject} (hfield : .object handle ∈ object.fields.values) :
      Stores handle (.host object)

/-- A handle is held somewhere at a moment: by the machine, by a component, or in hand. -/
inductive Moment.Holds (moment : Moment) (handle : Handle) : Prop
  | scope (hscope : moment.machine.scope = handle)
  | frame {frame : Frame} (hframe : frame ∈ moment.machine.frames)
      (hvalue : .object handle ∈ frame.values)
  | temporary (hvalue : .object handle ∈ moment.machine.temporaries)
  | result (hvalue : .object handle ∈ moment.machine.results)
  | default {definition : NodeDefinition}
      (hdefinition : definition ∈ moment.machine.context.catalog.definitions.values)
      (hvalue : .object handle ∈ definition.fields.map Prod.snd)
  | component {owner : Handle} {component : Component}
      (howner : moment.machine.context.heap.get? owner = some component)
      (hstores : component.Stores handle)
  | inHand (hvalue : .object handle ∈ moment.inHand)

/-- To show a value inside the components of `path`, a component is looked up that was released. -/
inductive Heap.ShowsReleased (heap : Heap) : List Handle → Value → Prop
  | here {path : List Handle} {handle : Handle} (hnone : heap.get? handle = none) :
      ShowsReleased heap path (.object handle)
  | inside {path : List Handle} {handle : Handle} {component : Component} {value : Value}
      (hget : heap.get? handle = some component) (hfresh : path.contains handle = false)
      (hshown : value ∈ component.shown) (hvalue : ShowsReleased heap (handle :: path) value) :
      ShowsReleased heap path (.object handle)

theorem Component.Stores.mem_references {handle : Handle} {component : Component}
    (hstores : component.Stores handle) : handle ∈ component.references := by
  cases hstores with
  | item hitem => exact Value.mem_handles.mpr (Array.mem_toList_iff.mpr hitem)
  | entry hentry => exact Value.mem_handles.mpr hentry
  | listItem hitem => exact Value.mem_handles.mpr hitem
  | element hchild => exact hchild
  | listed helement => exact helement
  | field hfield =>
      exact List.mem_append_left _ (List.mem_append_left _ (Value.mem_handles.mpr hfield))
  | child hchild => exact List.mem_append_left _ (List.mem_append_right _ hchild)
  | parent hparent => exact List.mem_append_right _ (Option.mem_toList.mpr hparent)
  | hostField hfield => exact Value.mem_handles.mpr hfield

/-- All handles that are held at a moment resolve. -/
def Moment.Resolves (moment : Moment) : Prop :=
  ∀ handle, moment.Holds handle →
    ∃ component, moment.machine.context.heap.get? handle = some component

theorem Moment.Mirrored.resolves {moment moment' : Moment} (hmoment : moment.Mirrored moment') :
    moment.Resolves := by
  intro handle hholds
  obtain ⟨π, hmachine, -, hhand⟩ := hmoment
  refine hmachine.settled handle ?_
  cases hholds with
  | scope hscope => exact hscope ▸ hmachine.covers_scope
  | frame hframe hvalue => exact Heap.holds_object.mp (hmachine.covers_frames _ hframe _ hvalue)
  | temporary hvalue => exact Heap.holds_object.mp (hmachine.covers_temporaries _ hvalue)
  | result hvalue => exact Heap.holds_object.mp (hmachine.covers_results _ hvalue)
  | default hdefinition hvalue =>
      exact hmachine.covers_catalog handle
        (NodeCatalog.mem_references.mpr ⟨_, hdefinition, Value.mem_handles.mpr hvalue⟩)
  | component howner hstores => exact hmachine.heap.covers howner handle hstores.mem_references
  | inHand hvalue => exact Heap.holds_object.mp (hhand _ hvalue)

theorem Machine.Sound.not_showsReleased {machine : Machine} (hmachine : machine.Sound)
    {path : List Handle} {value : Value} (hvalue : machine.context.heap.Holds value) :
    ¬ machine.context.heap.ShowsReleased path value := by
  intro hreleased
  induction hreleased with
  | here hnone =>
      obtain ⟨component, hget⟩ := hmachine.settled _ (Heap.holds_object.mp hvalue)
      rw [hget] at hnone
      cases hnone
  | inside hget _ hshown _ ih =>
      exact ih (Component.holds_of_shown (hmachine.components hget) _ hshown)

namespace Launch

theorem last_moments (settings : Settings) (source : String) (statements : List Statement)
    (context : RunContext) :
    let start := firstMachine source context
    (Moment.last start (moments settings source statements context)).context =
      (Evaluator.interpreter settings statements start.scope start.context).2 := by
  intro start
  rw [moments, Watched.ends, Evaluator.Watch.run_runProgram]
  have hstart : { context := start.context, scope := start.scope } = start := rfl
  rw [Evaluator.interpreter, hstart]
  cases Evaluator.runProgram settings statements start <;> rfl

/-- The moments of a run lead to its end, and every handle that is held anywhere at one of them
resolves. The run does not fail because a component was released, and no result shows one that was.
What is printed, and what a type is asked for, is in hand at the moment of the step. -/
theorem handles_resolve (threshold : Option Nat) (source : String) (statements : List Statement)
    (files : FileSystem) (run : RunId) (clock : Nat) (readings : List Nat) :
    let settings : Settings := { threshold := threshold }
    let context := freshContext files run clock readings
    let start := firstMachine source context
    let passed := moments settings source statements context
    let ended := Evaluator.interpreter settings statements start.scope start.context
    (Moment.last start passed).context = ended.2 ∧ (∀ moment ∈ passed, moment.Resolves) ∧
    (∀ span, ended.1 ≠ .error (.runtime (.method .released) span)) ∧
    ∀ results, ended.1 = .ok results →
      ∀ value ∈ results, ¬ ended.2.heap.ShowsReleased [] value := by
  have hagrees := agrees_never threshold source statements files run clock readings
  intro settings context start passed ended
  refine ⟨last_moments settings source statements context, ?_, ?_⟩
  · have hmoments := hagrees.moments.imp fun _ _ hmoment => And.intro hmoment.resolves hmoment
    exact ((List.forall₂_and_left _ _).mp hmoments).1
  · have hresult := hagrees.result
    simp only [Evaluator.Watch.run_runProgram] at hresult
    unfold ended Evaluator.interpreter
    change Run.Agrees _ _ _ (Evaluator.runProgram settings statements
      { context := start.context, scope := start.scope }) _ at hresult
    revert hresult
    generalize Evaluator.runProgram settings statements _ = result
    generalize Evaluator.runProgram _ statements _ = result'
    intro hresult
    cases hresult with
    | ok hafter =>
        refine ⟨?_, ?_⟩
        · intro span hfault
          cases hfault
        · intro results hresults value hvalue
          cases hresults
          exact hafter.sound.not_showsReleased
            (hafter.covers_results value (List.mem_reverse.mp hvalue))
    | error hafter _ _ hfault =>
        refine ⟨fun span hreleased => hfault span ?_, ?_⟩
        · cases hreleased
          rfl
        · intro results hresults
          cases hresults

end Launch

end BrightScript
