import BrightScript.Proofs.Renaming.Run

namespace BrightScript

namespace Operator

theorem mismatch_rename (f : Handle → Handle) (operator : BinaryOperator) (left right : Value) :
    mismatch operator (left.rename f) (right.rename f) = mismatch operator left right := by
  simp only [mismatch, Value.typeName_rename]

theorem compareValues_rename (π : Equiv.Perm Handle) (operator : BinaryOperator)
    (left right : Value) :
    compareValues operator (left.rename π) (right.rename π) =
      compareValues operator left right := by
  cases left <;> cases right <;>
    simp [compareValues, compareNumbers, mismatch, Value.number?, Value.typeName]

theorem arithmetic_rename (f : Handle → Handle) (operator : BinaryOperator) (left right : Value) :
    arithmetic operator (left.rename f) (right.rename f) = arithmetic operator left right := by
  cases left <;> cases right <;>
    simp [arithmetic, numbers, mismatch, Value.number?, Value.typeName]

theorem binary_rename (π : Equiv.Perm Handle) (operator : BinaryOperator) (left right : Value) :
    binary operator (left.rename π) (right.rename π) = binary operator left right := by
  unfold binary
  simp only [mismatch_rename, arithmetic_rename, compareValues_rename]

theorem unary_rename (f : Handle → Handle) (operator : UnaryOperator) (operand : Value) :
    unary operator (operand.rename f) = unary operator operand := by
  cases operator <;> cases operand <;> rfl

end Operator

/-- The result does not depend on the heap: it is no handle, and no use of a released component. -/
structure IsPlain (result : Except RuntimeError Value) : Prop where
  value : ∀ value, result = .ok value → value.object? = none
  error : ∀ error, result = .error error → error.Ordinary

namespace IsPlain

theorem ok {value : Value} (hvalue : value.object? = none) : IsPlain (.ok value) where
  value := by
    rintro other hother
    cases hother
    exact hvalue
  error := by
    intro error herror
    cases herror

theorem of_error {error : RuntimeError} (herror : error.Ordinary) : IsPlain (.error error) where
  value := by
    intro value hvalue
    cases hvalue
  error := by
    rintro other hother
    cases hother
    exact herror

theorem agrees {result : Except RuntimeError Value} (hresult : IsPlain result)
    (π : Equiv.Perm Handle) (heap : Heap) :
    Agrees RuntimeError.Ordinary (SameValue π heap) result result := by
  cases result with
  | ok value =>
      have hplain := hresult.value value rfl
      refine .ok ⟨(Value.rename_eq_self hplain).symm, fun handle hhandle => ?_⟩
      rw [hplain] at hhandle
      cases hhandle
  | error error => exact .error (hresult.error error rfl)

end IsPlain

namespace Operator

theorem isPlain_mismatch (operator : BinaryOperator) (left right : Value) :
    IsPlain (.error (mismatch operator left right)) :=
  .of_error (by simp [RuntimeError.Ordinary, mismatch])

theorem ordinary_of_compareValues {operator : BinaryOperator} {left right : Value}
    {error : RuntimeError} (herror : compareValues operator left right = .error error) :
    error.Ordinary := by
  have hmismatch : error = mismatch operator left right := by
    unfold compareValues at herror
    cases left <;> cases right <;> simp only [compareNumbers] at herror <;>
      grind
  rw [hmismatch]
  simp [RuntimeError.Ordinary, mismatch]

theorem isPlain_arithmetic (operator : BinaryOperator) (left right : Value) :
    IsPlain (arithmetic operator left right) := by
  unfold arithmetic
  split
  · split
    · unfold concatenate
      split
      · exact .of_error (by simp [RuntimeError.Ordinary])
      · exact .ok rfl
    · exact isPlain_mismatch _ _ _
  · unfold integers
    split
    · exact .ok rfl
    · exact .ok rfl
    · exact .ok rfl
    · split
      · exact .of_error (by simp [RuntimeError.Ordinary])
      · exact .ok rfl
  · unfold numbers
    split
    · exact .ok rfl
    · exact isPlain_mismatch _ _ _

theorem isPlain_binary (operator : BinaryOperator) (left right : Value) :
    IsPlain (binary operator left right) := by
  unfold binary
  split
  · exact isPlain_mismatch _ _ _
  · exact isPlain_mismatch _ _ _
  · exact isPlain_arithmetic _ _ _
  · exact isPlain_arithmetic _ _ _
  · exact isPlain_arithmetic _ _ _
  · exact isPlain_arithmetic _ _ _
  · cases hcompare : compareValues operator left right with
    | ok ordering => exact .ok rfl
    | error error => exact .of_error (ordinary_of_compareValues hcompare)

theorem isPlain_unary (operator : UnaryOperator) (operand : Value) :
    IsPlain (unary operator operand) := by
  unfold unary
  split
  · exact .ok rfl
  · exact .ok rfl
  · exact .ok rfl
  · exact .of_error (by simp [RuntimeError.Ordinary])

end Operator

namespace Run.Agrees

variable {α β : Type} {related : Equiv.Perm Handle → Heap → α → β → Prop}
  {π σ : Equiv.Perm Handle} {machine mirror : Machine}

theorem withContext {change : RunContext → α × RunContext} {change' : RunContext → β × RunContext}
    (hafter : Machine.Mirrors σ { machine with context := (change machine.context).2 }
      { mirror with context := (change' mirror.context).2 })
    (hrelated : related σ (change machine.context).2.heap (change machine.context).1
      (change' mirror.context).1) :
    Agrees related machine mirror (Run.withContext change machine)
      (Run.withContext change' mirror) := by
  obtain ⟨context, scope, functions, frames, temporaries, results⟩ := machine
  obtain ⟨context', scope', functions', frames', temporaries', results'⟩ := mirror
  exact .ok hafter rfl rfl hrelated

theorem alloc (hmachine : machine.Mirrors π mirror) {component : Component}
    (hcovers : machine.context.heap.Covers component.references) :
    Agrees SameValue machine mirror (Run.alloc component machine)
      (Run.alloc (component.rename π) mirror) := by
  obtain ⟨σ, hlater, hheap, hhandle⟩ := hmachine.heap.alloc hcovers
  have hnew := hmachine.heap.wellFormed.isValid_alloc_self component
  have hmade : Agrees SameHandle machine mirror
      (Run.withContext (·.alloc component) machine)
      (Run.withContext (·.alloc (component.rename π)) mirror) :=
    withContext (hmachine.withHeap hlater hheap) ⟨hhandle.symm, hnew⟩
  refine hmade.bind ?_
  rintro τ after after' handle _ hmirrors ⟨rfl, hvalid⟩
  exact .pure hmirrors ⟨rfl, Heap.holds_object.mpr hvalid⟩

end Run.Agrees

namespace Builtin

/-- What a built-in function does on a machine and on its mirror agrees. -/
def Action.Agrees (machine mirror : Machine) (action action' : Action) : Prop :=
  Run.Agrees SameValue machine mirror (Run.withContext action machine)
    (Run.withContext action' mirror)

variable {π : Equiv.Perm Handle} {machine mirror : Machine}

theorem expect_rename (f : Handle → Handle) (name : String) (arguments : List Value)
    (expected : Nat) :
    expect name (arguments.map (Value.rename f)) expected = expect name arguments expected := by
  simp only [expect, List.length_map]

theorem text_rename (f : Handle → Handle) (name : String) (arguments : List Value)
    (position : Nat) :
    text name (arguments.map (Value.rename f)) position = text name arguments position := by
  simp only [text, List.getElem?_map]
  cases arguments[position]? with
  | none => rfl
  | some value => cases value <;> rfl

theorem agrees_expect (name : String) (arguments : List Value) (expected : Nat) :
    Agrees RuntimeError.Ordinary Eq (expect name arguments expected)
      (expect name arguments expected) := by
  refine .same fun error herror => ?_
  unfold expect at herror
  split at herror
  · cases herror
  · cases herror
    simp [RuntimeError.Ordinary]

theorem agrees_text (name : String) (arguments : List Value) (position : Nat) :
    Agrees RuntimeError.Ordinary Eq (text name arguments position)
      (text name arguments position) := by
  refine .same fun error herror => ?_
  unfold text at herror
  split at herror
  · cases herror
  · cases herror
    simp [RuntimeError.Ordinary]

theorem typeOf_rename {heap mirror : Heap} (hheap : heap.Mirrors π mirror) {value : Value}
    (hvalue : heap.Holds value) : typeOf mirror (value.rename π) = typeOf heap value := by
  cases value with
  | object handle =>
      simp only [Value.rename_object, typeOf, hheap.get?_eq (Heap.holds_object.mp hvalue)]
      cases heap.get? handle with
      | none => rfl
      | some component => simp
  | _ => rfl

theorem headD_rename (f : Handle → Handle) (arguments : List Value) :
    (arguments.map (Value.rename f)).headD .invalid = (arguments.headD .invalid).rename f := by
  cases arguments <;> rfl

theorem agrees_give (hmachine : machine.Mirrors π mirror) {value : Value}
    (hvalue : value.object? = none) : Action.Agrees machine mirror (give value) (give value) := by
  refine Run.Agrees.withContext hmachine
    ⟨(Value.rename_eq_self hvalue).symm, fun handle hhandle => ?_⟩
  change value.object? = some handle at hhandle
  rw [hvalue] at hhandle
  cases hhandle

theorem agrees_create (hmachine : machine.Mirrors π mirror) (kind : String)
    (arguments : List Value) :
    Action.Agrees machine mirror (create .builtin kind arguments)
      (create .builtin kind (arguments.map (Value.rename π))) := by
  have hsame := Registry.create_rename π machine.context.heap.clock machine.context.catalog kind
    arguments
  rw [← hmachine.catalog, ← hmachine.heap.clock_eq] at hsame
  cases hcreate : Registry.builtin.create mirror.context.heap.clock machine.context.catalog kind
      arguments with
  | ok creation =>
      rw [hcreate] at hsame
      change _ = Except.ok (creation.rename π) at hsame
      obtain ⟨σ, hlater, hheap, hhandle⟩ :=
        hmachine.heap.alloc (Registry.covers_create hmachine.covers_catalog hcreate)
      have hnew := hmachine.heap.wellFormed.isValid_alloc_self creation.component
      refine Run.Agrees.withContext (σ := σ) ?_ ?_ <;>
        simp only [create, hsame, hcreate, ← hmachine.heap.clock_eq]
      · exact (hmachine.withHeap hlater hheap).warn creation.warnings
      · exact ⟨congrArg Value.object hhandle.symm, Heap.holds_object.mpr hnew⟩
  | error error =>
      rw [hcreate] at hsame
      change _ = Except.error error at hsame
      refine Run.Agrees.withContext (σ := π) ?_ ?_ <;>
        simp only [create, hsame, hcreate, ← hmachine.heap.clock_eq]
      · exact hmachine
      · exact ⟨rfl, Heap.holds_invalid⟩

theorem agrees_read (hmachine : machine.Mirrors π mirror) (path : String) :
    Action.Agrees machine mirror (read path) (read path) := by
  cases hread : machine.context.files.readText path <;>
    refine Run.Agrees.withContext (σ := π) ?_ ?_ <;>
    simp only [read, hmachine.files, hread]
  · exact hmachine
  · exact ⟨rfl, Heap.holds_text⟩
  · exact hmachine
  · exact ⟨rfl, Heap.holds_text⟩

theorem agrees_write (hmachine : machine.Mirrors π mirror) (path contents : String) :
    Action.Agrees machine mirror (write path contents) (write path contents) := by
  cases hwrite : machine.context.files.writeText path contents <;>
    refine Run.Agrees.withContext (σ := π) ?_ ?_ <;>
    simp only [write, hmachine.files, hwrite]
  · exact hmachine
  · exact ⟨rfl, Heap.holds_boolean⟩
  · exact { hmachine with files := rfl }
  · exact ⟨rfl, Heap.holds_boolean⟩

theorem signedText_rename (f : Handle → Handle) (value : Value) :
    signedText (value.rename f) = signedText value := by
  simp only [signedText, Value.display_rename]

theorem agrees_call (hmachine : machine.Mirrors π mirror) (builtin : Builtin) (name : String)
    {arguments : List Value}
    (harguments : ∀ value ∈ arguments, machine.context.heap.Holds value) :
    Agrees RuntimeError.Ordinary (Action.Agrees machine mirror)
      (builtin.call .builtin name arguments)
      (builtin.call .builtin name (arguments.map (Value.rename π))) := by
  cases builtin <;> simp only [call, expect_rename, text_rename, headD_rename, ← List.map_tail,
    Value.number?_rename, Value.typeName_rename, signedText_rename]
  case createObject =>
    refine (agrees_text name arguments 0).bind ?_
    rintro kind _ rfl
    exact .ok ((agrees_create hmachine.tick kind arguments.tail).of_kept rfl rfl)
  case type =>
    refine (agrees_expect name arguments 1).bind fun _ _ _ => .ok ?_
    refine Run.Agrees.withContext hmachine ⟨?_, Heap.holds_text⟩
    have hhead : machine.context.heap.Holds (arguments.headD .invalid) := by
      cases arguments with
      | nil => exact Heap.holds_invalid
      | cons first rest => exact harguments first List.mem_cons_self
    simp only [typeOf_rename hmachine.heap hhead, Value.rename_text]
  case upper =>
    refine (agrees_expect name arguments 1).bind fun _ _ _ => ?_
    refine (agrees_text name arguments 0).bind ?_
    rintro argument _ rfl
    exact .ok (agrees_give hmachine rfl)
  case lower =>
    refine (agrees_expect name arguments 1).bind fun _ _ _ => ?_
    refine (agrees_text name arguments 0).bind ?_
    rintro argument _ rfl
    exact .ok (agrees_give hmachine rfl)
  case length =>
    refine (agrees_expect name arguments 1).bind fun _ _ _ => ?_
    refine (agrees_text name arguments 0).bind ?_
    rintro argument _ rfl
    exact .ok (agrees_give hmachine rfl)
  case numberText =>
    refine (agrees_expect name arguments 1).bind fun _ _ _ => ?_
    split
    · exact .ok (agrees_give hmachine rfl)
    · exact .error (by simp [RuntimeError.Ordinary])
  case textNumber =>
    refine (agrees_expect name arguments 1).bind fun _ _ _ => ?_
    refine (agrees_text name arguments 0).bind ?_
    rintro argument _ rfl
    refine .ok (agrees_give hmachine ?_)
    dsimp only [numberOf]
    split <;> rfl
  case readFile =>
    refine (agrees_expect name arguments 1).bind fun _ _ _ => ?_
    refine (agrees_text name arguments 0).bind ?_
    rintro path _ rfl
    exact .ok (agrees_read hmachine path)
  case writeFile =>
    refine (agrees_expect name arguments 2).bind fun _ _ _ => ?_
    refine (agrees_text name arguments 0).bind ?_
    rintro path _ rfl
    refine (agrees_text name arguments 1).bind ?_
    rintro contents _ rfl
    exact .ok (agrees_write hmachine path contents)

end Builtin

end BrightScript
