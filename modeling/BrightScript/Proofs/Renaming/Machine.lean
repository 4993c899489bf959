import BrightScript.Evaluator.Machine
import BrightScript.Proofs.Renaming.Dispatch

namespace BrightScript

namespace Machine

/-- The mirror is in the same state as a machine under renamed handles. All handles that the machine
holds are valid, and no component of it is lent out. -/
structure Mirrors (π : Equiv.Perm Handle) (machine mirror : Machine) : Prop where
  files : mirror.context.files = machine.context.files
  output : mirror.context.output = machine.context.output
  warnings : mirror.context.warnings = machine.context.warnings
  readings : mirror.context.readings = machine.context.readings
  functions : mirror.functions = machine.functions
  catalog : mirror.context.catalog = machine.context.catalog.rename π
  scope : mirror.scope = π machine.scope
  frames : mirror.frames = machine.frames.map (Dictionary.mapValues (Value.rename π))
  temporaries : mirror.temporaries = machine.temporaries.map (Value.rename π)
  results : mirror.results = machine.results.map (Value.rename π)
  heap : machine.context.heap.Mirrors π mirror.context.heap
  settled : machine.context.heap.Settled
  covers : machine.context.heap.Covers machine.roots

variable {π σ : Equiv.Perm Handle} {machine mirror : Machine}

theorem covers_roots_iff {heap : Heap} : heap.Covers machine.roots ↔
    heap.isValid machine.scope = true ∧
      (∀ frame ∈ machine.frames, ∀ value ∈ frame.values, heap.Holds value) ∧
      (∀ value ∈ machine.temporaries, heap.Holds value) ∧
      (∀ value ∈ machine.results, heap.Holds value) ∧
      heap.Covers machine.context.catalog.references := by
  have hframes : heap.Covers (machine.frames.flatMap fun frame => Value.handles frame.values) ↔
      ∀ frame ∈ machine.frames, ∀ value ∈ frame.values, heap.Holds value := by
    simp only [← Heap.covers_handles]
    unfold Heap.Covers
    simp only [List.mem_flatMap]
    constructor
    · exact fun hcovers frame hframe handle hhandle => hcovers handle ⟨frame, hframe, hhandle⟩
    · rintro hcovers handle ⟨frame, hframe, hhandle⟩
      exact hcovers frame hframe handle hhandle
  have hscope : ∀ rest, heap.Covers (machine.scope :: rest) ↔
      heap.isValid machine.scope = true ∧ heap.Covers rest := by
    simp [Heap.Covers]
  rw [roots, List.cons_append, List.cons_append, List.cons_append, hscope, Heap.covers_append,
    Heap.covers_append, Heap.covers_append, hframes, Heap.covers_handles, Heap.covers_handles]
  tauto

namespace Mirrors

theorem covers_scope (hmachine : Mirrors π machine mirror) :
    machine.context.heap.isValid machine.scope = true :=
  (covers_roots_iff.mp hmachine.covers).1

theorem covers_frames (hmachine : Mirrors π machine mirror) :
    ∀ frame ∈ machine.frames, ∀ value ∈ frame.values, machine.context.heap.Holds value :=
  (covers_roots_iff.mp hmachine.covers).2.1

theorem covers_temporaries (hmachine : Mirrors π machine mirror) :
    ∀ value ∈ machine.temporaries, machine.context.heap.Holds value :=
  (covers_roots_iff.mp hmachine.covers).2.2.1

theorem covers_results (hmachine : Mirrors π machine mirror) :
    ∀ value ∈ machine.results, machine.context.heap.Holds value :=
  (covers_roots_iff.mp hmachine.covers).2.2.2.1

theorem covers_catalog (hmachine : Mirrors π machine mirror) :
    machine.context.heap.Covers machine.context.catalog.references :=
  (covers_roots_iff.mp hmachine.covers).2.2.2.2

end Mirrors

/-- The machine with another heap. -/
def withHeap (machine : Machine) (heap : Heap) : Machine :=
  { machine with context := { machine.context with heap := heap } }

theorem Mirrors.withHeap (hmachine : Mirrors π machine mirror) {later later' : Heap}
    (hlater : machine.context.heap.Later π σ later) (hheap : later.Mirrors σ later') :
    Mirrors σ (machine.withHeap later) (mirror.withHeap later') where
  files := hmachine.files
  output := hmachine.output
  warnings := hmachine.warnings
  readings := hmachine.readings
  functions := hmachine.functions
  catalog := by
    refine hmachine.catalog.trans (NodeCatalog.rename_congr fun handle hhandle => ?_)
    exact (hlater.agrees (hmachine.covers_catalog handle hhandle)).symm
  scope := hmachine.scope.trans (hlater.agrees hmachine.covers_scope).symm
  frames := by
    refine hmachine.frames.trans (List.map_congr_left fun frame hframe => ?_)
    refine Dictionary.mapValues_congr fun value hvalue => ?_
    exact (hlater.rename_value (hmachine.covers_frames frame hframe value hvalue)).symm
  temporaries := by
    refine hmachine.temporaries.trans (List.map_congr_left fun value hvalue => ?_)
    exact (hlater.rename_value (hmachine.covers_temporaries value hvalue)).symm
  results := by
    refine hmachine.results.trans (List.map_congr_left fun value hvalue => ?_)
    exact (hlater.rename_value (hmachine.covers_results value hvalue)).symm
  heap := hheap
  settled := hmachine.settled.of_later hlater
  covers := hlater.covers hmachine.covers

theorem Mirrors.withTemporaries (hmachine : Mirrors π machine mirror) {values : List Value}
    (hvalues : ∀ value ∈ values, machine.context.heap.Holds value) :
    Mirrors π { machine with temporaries := values }
      { mirror with temporaries := values.map (Value.rename π) } := by
  refine { hmachine with temporaries := rfl, covers := ?_ }
  rw [covers_roots_iff]
  exact ⟨hmachine.covers_scope, hmachine.covers_frames, hvalues, hmachine.covers_results,
    hmachine.covers_catalog⟩

theorem Mirrors.withFrames (hmachine : Mirrors π machine mirror) {frames : List Frame}
    (hframes : ∀ frame ∈ frames, ∀ value ∈ frame.values, machine.context.heap.Holds value) :
    Mirrors π { machine with frames := frames }
      { mirror with frames := frames.map (Dictionary.mapValues (Value.rename π)) } := by
  refine { hmachine with frames := rfl, covers := ?_ }
  rw [covers_roots_iff]
  exact ⟨hmachine.covers_scope, hframes, hmachine.covers_temporaries, hmachine.covers_results,
    hmachine.covers_catalog⟩

theorem Mirrors.withResults (hmachine : Mirrors π machine mirror) {values : List Value}
    (hvalues : ∀ value ∈ values, machine.context.heap.Holds value) :
    Mirrors π { machine with results := values }
      { mirror with results := values.map (Value.rename π) } := by
  refine { hmachine with results := rfl, covers := ?_ }
  rw [covers_roots_iff]
  exact ⟨hmachine.covers_scope, hmachine.covers_frames, hmachine.covers_temporaries, hvalues,
    hmachine.covers_catalog⟩

theorem Mirrors.withCatalog (hmachine : Mirrors π machine mirror) {catalog : NodeCatalog}
    (hcatalog : machine.context.heap.Covers catalog.references) :
    Mirrors π { machine with context := { machine.context with catalog := catalog } }
      { mirror with context := { mirror.context with catalog := catalog.rename π } } := by
  refine { hmachine with catalog := rfl, covers := ?_ }
  rw [covers_roots_iff]
  exact ⟨hmachine.covers_scope, hmachine.covers_frames, hmachine.covers_temporaries,
    hmachine.covers_results, hcatalog⟩

/-- The clocks of both sides read the same. -/
theorem Mirrors.tick (hmachine : Mirrors π machine mirror) :
    Mirrors π { machine with context := machine.context.tick }
      { mirror with context := mirror.context.tick } := by
  have htime : mirror.context.readings.headD mirror.context.heap.clock =
      machine.context.readings.headD machine.context.heap.clock := by
    rw [hmachine.readings, hmachine.heap.clock_eq]
  refine { hmachine with
    readings := congrArg List.tail hmachine.readings
    heap := ?_ }
  change (machine.context.heap.atTime _).Mirrors π (mirror.context.heap.atTime _)
  rw [htime]
  exact hmachine.heap.atTime _

theorem Mirrors.warn (hmachine : Mirrors π machine mirror) (warnings : List String) :
    Mirrors π { machine with context := machine.context.warn warnings }
      { mirror with context := mirror.context.warn warnings } := by
  refine { hmachine with warnings := ?_ }
  exact congrArg (· ++ warnings) hmachine.warnings

theorem Mirrors.addResult (hmachine : Mirrors π machine mirror) {value : Value}
    (hvalue : machine.context.heap.Holds value) :
    Mirrors π { machine with results := value :: machine.results }
      { mirror with results := value.rename π :: mirror.results } := by
  rw [hmachine.results]
  exact hmachine.withResults (List.forall_mem_cons.mpr ⟨hvalue, hmachine.covers_results⟩)

theorem Mirrors.declare (hmachine : Mirrors π machine mirror) (function : Function) :
    Mirrors π (machine.declare function) (mirror.declare function) := by
  refine { hmachine with functions := ?_ }
  exact congrArg (·.insert function.name function) hmachine.functions

theorem Mirrors.declareKind (hmachine : Mirrors π machine mirror) {name : String}
    {base : Option String} {fields : List (String × Value)}
    (hfields : ∀ field ∈ fields, machine.context.heap.Holds field.2) :
    Mirrors π
      { machine with context := { machine.context with
          catalog := machine.context.catalog.declare ⟨name, base, fields⟩ } }
      { mirror with context := { mirror.context with
          catalog := mirror.context.catalog.declare ⟨name, base, renameFields π fields⟩ } } := by
  have hdeclared := NodeCatalog.declare_rename π machine.context.catalog ⟨name, base, fields⟩
  rw [← hmachine.catalog] at hdeclared
  change mirror.context.catalog.declare ⟨name, base, renameFields π fields⟩ = _ at hdeclared
  rw [hdeclared]
  refine hmachine.withCatalog fun handle hhandle => ?_
  obtain ⟨definition, hdefinition, hhandle⟩ := NodeCatalog.mem_references.mp hhandle
  rcases Dictionary.mem_values_insert hdefinition with rfl | hdefinition
  · obtain ⟨field, hfield, hvalue⟩ := List.mem_map.mp (Value.mem_handles.mp hhandle)
    have hholds := hfields field hfield
    rw [hvalue, Heap.holds_object] at hholds
    exact hholds
  · exact hmachine.covers_catalog handle
      (NodeCatalog.mem_references.mpr ⟨definition, hdefinition, hhandle⟩)

theorem Mirrors.valueOf?_rename (hmachine : Mirrors π machine mirror) (name : String) :
    mirror.valueOf? name = (machine.valueOf? name).map (Value.rename π) := by
  unfold valueOf?
  rw [hmachine.frames]
  cases machine.frames with
  | nil => rfl
  | cons frame frames => exact Dictionary.get?_mapValues _ _ _

theorem Mirrors.holds_valueOf? (hmachine : Mirrors π machine mirror) {name : String} {value : Value}
    (hvalue : machine.valueOf? name = some value) : machine.context.heap.Holds value := by
  unfold valueOf? at hvalue
  obtain ⟨frame, hframe, hvalue⟩ := Option.bind_eq_some_iff.mp hvalue
  exact hmachine.covers_frames frame (List.mem_of_head? hframe) value
    (Dictionary.mem_values_of_get? hvalue)

theorem assign_eq (machine : Machine) (name : String) (value : Value) :
    machine.assign name value = { machine with
      frames := (machine.frames.headD .empty).insert name value :: machine.frames.tail } := by
  unfold assign
  split
  · rename_i frame frames hframes
    rw [hframes]
    rfl
  · rename_i hframes
    rw [hframes]
    rfl

theorem Mirrors.assign (hmachine : Mirrors π machine mirror) (name : String) {value : Value}
    (hvalue : machine.context.heap.Holds value) :
    Mirrors π (machine.assign name value) (mirror.assign name (value.rename π)) := by
  have hframes : (mirror.frames.headD .empty).insert name (value.rename π) :: mirror.frames.tail =
      ((machine.frames.headD .empty).insert name value :: machine.frames.tail).map
        (Dictionary.mapValues (Value.rename π)) := by
    rw [hmachine.frames, List.map_cons, ← Dictionary.mapValues_insert, List.map_tail]
    cases machine.frames <;> rfl
  rw [assign_eq, assign_eq, hframes]
  refine hmachine.withFrames (List.forall_mem_cons.mpr ⟨fun held hheld => ?_, fun frame hframe =>
    hmachine.covers_frames frame (List.mem_of_mem_tail hframe)⟩)
  rcases Dictionary.mem_values_insert hheld with rfl | hheld
  · exact hvalue
  · cases hbefore : machine.frames with
    | nil =>
        rw [hbefore] at hheld
        cases hheld
    | cons frame frames =>
        rw [hbefore] at hheld
        exact hmachine.covers_frames frame (by rw [hbefore]; exact List.mem_cons_self) held hheld

theorem Mirrors.display_rename (hmachine : Mirrors π machine mirror) {value : Value}
    (hvalue : machine.context.heap.Holds value) :
    mirror.display (value.rename π) = machine.display value := by
  cases value with
  | object handle =>
      simp only [Value.rename_object, display, hmachine.heap.get?_eq (Heap.holds_object.mp hvalue)]
      cases machine.context.heap.get? handle with
      | none => rfl
      | some component => cases component <;> rfl
  | _ => rfl

theorem Mirrors.print (hmachine : Mirrors π machine mirror) {values : List Value}
    (hvalues : ∀ value ∈ values, machine.context.heap.Holds value) :
    Mirrors π
      { machine with
        context := machine.context.print (" ".intercalate (values.map machine.display)) }
      { mirror with
        context := mirror.context.print
          (" ".intercalate ((values.map (Value.rename π)).map mirror.display)) } := by
  have hsame : (values.map (Value.rename π)).map mirror.display = values.map machine.display := by
    rw [List.map_map]
    exact List.map_congr_left fun value hvalue => hmachine.display_rename (hvalues value hvalue)
  rw [hsame]
  refine { hmachine with output := ?_ }
  exact congrArg (· ++ _) hmachine.output

theorem Mirrors.collect (hmachine : Mirrors π machine mirror) (settings : Settings) :
    Mirrors π (machine.collect settings) mirror := by
  have hsweep : Mirrors π machine.sweep mirror := by
    have hheap := hmachine.heap.wellFormed
    have hkept : ∀ {handle : Handle},
        machine.context.heap.Reaches machine.roots handle →
        (machine.context.heap.collect machine.roots).isValid handle = true :=
      fun hreach => (hheap.reaches_collect hreach).isValid
    refine { hmachine with
      heap := hmachine.heap.collect machine.roots
      settled := ?_
      covers := ?_ }
    · intro handle hhandle
      obtain ⟨slot, hslot⟩ := Heap.isValid_iff.mp hhandle
      obtain ⟨hbefore, hreason⟩ := (hheap.slot?_collect_eq_some_iff machine.roots).mp hslot
      obtain ⟨component, hget⟩ := hmachine.settled handle (Heap.isValid_iff.mpr ⟨slot, hbefore⟩)
      obtain ⟨found, hfound, hstate⟩ := Heap.get?_eq_some_iff.mp hget
      rw [hbefore] at hfound
      cases hfound
      rcases hreason with hborrowed | hreach
      · rw [hborrowed] at hstate
        cases hstate
      · exact ⟨component, hheap.get?_collect.mpr ⟨hget, hreach⟩⟩
    · exact fun handle hhandle => hkept (.root hhandle (hmachine.covers handle hhandle))
  unfold Machine.collect
  split
  · exact hmachine
  · split
    · exact hsweep
    · exact hmachine

/-- No component is lent out, and all handles are valid that the machine or a component holds. -/
structure Sound (machine : Machine) : Prop where
  wellFormed : machine.context.heap.WellFormed
  settled : machine.context.heap.Settled
  components : ∀ {handle : Handle} {component : Component},
    machine.context.heap.get? handle = some component →
    machine.context.heap.Covers component.references
  roots : machine.context.heap.Covers machine.roots

theorem Mirrors.sound (hmachine : Mirrors π machine mirror) : machine.Sound where
  wellFormed := hmachine.heap.wellFormed
  settled := hmachine.settled
  components := hmachine.heap.covers
  roots := hmachine.covers

theorem Sound.mirrors (hmachine : machine.Sound) : Mirrors 1 machine machine := by
  have hvalue : Value.rename (1 : Equiv.Perm Handle) = id := Value.rename_id
  constructor
  · rfl
  · rfl
  · rfl
  · rfl
  · rfl
  · exact (NodeCatalog.rename_id _).symm
  · rfl
  · rw [hvalue]
    exact (List.map_id'' Dictionary.mapValues_id _).symm
  · rw [hvalue, List.map_id]
  · rw [hvalue, List.map_id]
  · exact Heap.Mirrors.refl hmachine.wellFormed hmachine.components
  · exact hmachine.settled
  · exact hmachine.roots

end Machine

end BrightScript
