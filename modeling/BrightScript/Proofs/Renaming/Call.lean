import BrightScript.Proofs.Renaming.Heap

namespace BrightScript

/-- Both results are related, or both are the same error, which is one of the allowed ones. -/
inductive Agrees {ε α β : Type} (allowed : ε → Prop) (related : α → β → Prop) :
    Except ε α → Except ε β → Prop
  | ok {first : α} {second : β} (hrelated : related first second) :
      Agrees allowed related (.ok first) (.ok second)
  | error {e : ε} (hallowed : allowed e) : Agrees allowed related (.error e) (.error e)

namespace Agrees

theorem bind {ε α β γ δ : Type} {allowed : ε → Prop} {related : α → β → Prop}
    {result : γ → δ → Prop} {first : Except ε α} {second : Except ε β} {next : α → Except ε γ}
    {next' : β → Except ε δ} (hfirst : Agrees allowed related first second)
    (hnext : ∀ value other, related value other →
      Agrees allowed result (next value) (next' other)) :
    Agrees allowed result (first >>= next) (second >>= next') := by
  cases hfirst with
  | ok hrelated => exact hnext _ _ hrelated
  | error hallowed => exact .error hallowed

theorem map {ε α β γ δ : Type} {allowed : ε → Prop} {related : α → β → Prop}
    {result : γ → δ → Prop} {first : Except ε α} {second : Except ε β} {change : α → γ}
    {change' : β → δ} (hfirst : Agrees allowed related first second)
    (hchange : ∀ value other, related value other → result (change value) (change' other)) :
    Agrees allowed result (change <$> first) (change' <$> second) := by
  cases hfirst with
  | ok hrelated => exact .ok (hchange _ _ hrelated)
  | error hallowed => exact .error hallowed

theorem mapError {ε δ α β : Type} {allowed : ε → Prop} {allowed' : δ → Prop}
    {related : α → β → Prop} {first : Except ε α} {second : Except ε β} {change : ε → δ}
    (hfirst : Agrees allowed related first second)
    (hchange : ∀ e, allowed e → allowed' (change e)) :
    Agrees allowed' related (first.mapError change) (second.mapError change) := by
  cases hfirst with
  | ok hrelated => exact .ok hrelated
  | error hallowed => exact .error (hchange _ hallowed)

theorem same {ε α : Type} {allowed : ε → Prop} {result : Except ε α}
    (hallowed : ∀ e, result = .error e → allowed e) : Agrees allowed Eq result result := by
  cases result with
  | ok value => exact .ok rfl
  | error e => exact .error (hallowed e rfl)

end Agrees

/-- Any error but the use of a released component. -/
def MethodError.Ordinary (e : MethodError) : Prop := e ≠ .released

namespace Call

/-- The call with the handles among its arguments renamed. -/
def rename (f : Handle → Handle) (call : Call) : Call :=
  ⟨call.method, call.arguments.map (Value.rename f)⟩

variable (f : Handle → Handle) (call : Call)

@[simp] theorem method_rename : (call.rename f).method = call.method := rfl

@[simp] theorem arguments_rename :
    (call.rename f).arguments = call.arguments.map (Value.rename f) := rfl

@[simp] theorem expectBetween_rename (least most : Nat) :
    (call.rename f).expectBetween least most = call.expectBetween least most := by
  simp [expectBetween]

@[simp] theorem typeError_rename (position : Nat) (expected : String) :
    (call.rename f).typeError position expected = call.typeError position expected := by
  simp only [typeError, arguments_rename, method_rename, List.getElem?_map, Option.map_map]
  simp only [Function.comp_def, Value.typeName_rename]

@[simp] theorem text_rename (position : Nat) :
    (call.rename f).text position = call.text position := by
  simp only [text, arguments_rename, List.getElem?_map, typeError_rename]
  cases call.arguments[position]? with
  | none => rfl
  | some value => cases value <;> rfl

@[simp] theorem integer_rename (position : Nat) :
    (call.rename f).integer position = call.integer position := by
  have hsame : ((call.arguments.map (Value.rename f))[position]?).bind Value.integer? =
      call.arguments[position]?.bind Value.integer? := by
    rw [List.getElem?_map]
    cases call.arguments[position]? with
    | none => rfl
    | some value => exact Value.integer?_rename f value
  simp only [integer, arguments_rename, hsame, typeError_rename]

@[simp] theorem index_rename (position : Nat) :
    (call.rename f).index position = call.index position := by
  simp only [index, integer_rename]

@[simp] theorem length_rename (position : Nat) :
    (call.rename f).length position = call.length position := by
  simp only [length, integer_rename]

@[simp] theorem boolean_rename (position : Nat) :
    (call.rename f).boolean position = call.boolean position := by
  simp only [boolean, arguments_rename, List.getElem?_map, typeError_rename]
  cases call.arguments[position]? with
  | none => rfl
  | some value => cases value <;> rfl

@[simp] theorem ensureItems_rename (count : Nat) :
    (call.rename f).ensureItems count = call.ensureItems count := rfl

@[simp] theorem ensureTextBytes_rename (count : Nat) :
    (call.rename f).ensureTextBytes count = call.ensureTextBytes count := rfl

variable {f call}

theorem expectBetween_ne {least most : Nat} :
    call.expectBetween least most ≠ .error .released := by
  unfold expectBetween
  dsimp only
  split <;> simp

theorem text_ne {position : Nat} : call.text position ≠ .error .released := by
  unfold text
  split <;> simp [typeError]

theorem integer_ne {position : Nat} : call.integer position ≠ .error .released := by
  unfold integer
  split <;> simp [typeError]

theorem index_ne {position : Nat} : call.index position ≠ .error .released := by
  unfold index
  cases hinteger : call.integer position with
  | error e =>
      rintro ⟨⟩
      exact integer_ne hinteger
  | ok value => simp [bind, Except.bind]

theorem length_ne {position : Nat} : call.length position ≠ .error .released := by
  unfold length
  cases hinteger : call.integer position with
  | error e =>
      rintro ⟨⟩
      exact integer_ne hinteger
  | ok value => simp [bind, Except.bind]

theorem boolean_ne {position : Nat} : call.boolean position ≠ .error .released := by
  unfold boolean
  split <;> simp [typeError]

theorem ensureItems_ne {count : Nat} : call.ensureItems count ≠ .error .released := by
  unfold ensureItems
  split <;> simp [fail]

theorem ensureTextBytes_ne {count : Nat} : call.ensureTextBytes count ≠ .error .released := by
  unfold ensureTextBytes
  split <;> simp [fail]

end Call

/-! The arguments of a call and of the renamed call agree, so that what is done with them can be
compared. -/

namespace Agrees

variable {α β : Type} {related : α → β → Prop} {call : Call} {π : Equiv.Perm Handle}

theorem plain {γ : Type} {result renamed : Except MethodError γ} (hsame : renamed = result)
    (hother : result ≠ .error .released) {first : γ → Except MethodError α}
    {second : γ → Except MethodError β}
    (hnext : ∀ value, Agrees MethodError.Ordinary related (first value) (second value)) :
    Agrees MethodError.Ordinary related (result >>= first) (renamed >>= second) := by
  rw [hsame]
  refine (same ?_).bind ?_
  · rintro e he rfl
    exact hother he
  · rintro value _ rfl
    exact hnext value

theorem expectBetween {least most : Nat} {first : Except MethodError α}
    {second : Except MethodError β} (hnext : Agrees MethodError.Ordinary related first second) :
    Agrees MethodError.Ordinary related (call.expectBetween least most >>= fun _ => first)
      ((call.rename π).expectBetween least most >>= fun _ => second) :=
  plain (Call.expectBetween_rename π call least most) Call.expectBetween_ne fun _ => hnext

theorem expect {count : Nat} {first : Except MethodError α} {second : Except MethodError β}
    (hnext : Agrees MethodError.Ordinary related first second) :
    Agrees MethodError.Ordinary related (call.expect count >>= fun _ => first)
      ((call.rename π).expect count >>= fun _ => second) :=
  expectBetween hnext

theorem text {position : Nat} {first : String → Except MethodError α}
    {second : String → Except MethodError β}
    (hnext : ∀ value, Agrees MethodError.Ordinary related (first value) (second value)) :
    Agrees MethodError.Ordinary related (call.text position >>= first)
      ((call.rename π).text position >>= second) :=
  plain (Call.text_rename π call position) Call.text_ne hnext

theorem index {position : Nat} {first : Option Nat → Except MethodError α}
    {second : Option Nat → Except MethodError β}
    (hnext : ∀ value, Agrees MethodError.Ordinary related (first value) (second value)) :
    Agrees MethodError.Ordinary related (call.index position >>= first)
      ((call.rename π).index position >>= second) :=
  plain (Call.index_rename π call position) Call.index_ne hnext

theorem length {position : Nat} {first : Nat → Except MethodError α}
    {second : Nat → Except MethodError β}
    (hnext : ∀ value, Agrees MethodError.Ordinary related (first value) (second value)) :
    Agrees MethodError.Ordinary related (call.length position >>= first)
      ((call.rename π).length position >>= second) :=
  plain (Call.length_rename π call position) Call.length_ne hnext

theorem boolean {position : Nat} {first : Bool → Except MethodError α}
    {second : Bool → Except MethodError β}
    (hnext : ∀ value, Agrees MethodError.Ordinary related (first value) (second value)) :
    Agrees MethodError.Ordinary related (call.boolean position >>= first)
      ((call.rename π).boolean position >>= second) :=
  plain (Call.boolean_rename π call position) Call.boolean_ne hnext

theorem ensureItems {count : Nat} {first : Except MethodError α} {second : Except MethodError β}
    (hnext : Agrees MethodError.Ordinary related first second) :
    Agrees MethodError.Ordinary related (call.ensureItems count >>= fun _ => first)
      ((call.rename π).ensureItems count >>= fun _ => second) :=
  plain (Call.ensureItems_rename π call count) Call.ensureItems_ne fun _ => hnext

theorem ensureTextBytes {count : Nat} {first : Except MethodError α}
    {second : Except MethodError β} (hnext : Agrees MethodError.Ordinary related first second) :
    Agrees MethodError.Ordinary related (call.ensureTextBytes count >>= fun _ => first)
      ((call.rename π).ensureTextBytes count >>= fun _ => second) :=
  plain (Call.ensureTextBytes_rename π call count) Call.ensureTextBytes_ne fun _ => hnext

theorem value {heap : Heap} (hcall : ∀ value ∈ call.arguments, heap.Holds value) {position : Nat}
    {first : Value → Except MethodError α} {second : Value → Except MethodError β}
    (hnext : ∀ value, heap.Holds value →
      Agrees MethodError.Ordinary related (first value) (second (value.rename π))) :
    Agrees MethodError.Ordinary related (call.value position >>= first)
      ((call.rename π).value position >>= second) := by
  simp only [Call.value, Call.arguments_rename, List.getElem?_map, Call.typeError_rename]
  cases hvalue : call.arguments[position]? with
  | none => exact .error (by simp [Call.typeError, MethodError.Ordinary])
  | some value => exact hnext value (hcall value (List.mem_of_getElem? hvalue))

theorem object {heap : Heap} (hcall : ∀ value ∈ call.arguments, heap.Holds value) {position : Nat}
    {first : Handle → Except MethodError α} {second : Handle → Except MethodError β}
    (hnext : ∀ handle, heap.isValid handle = true →
      Agrees MethodError.Ordinary related (first handle) (second (π handle))) :
    Agrees MethodError.Ordinary related (call.object position >>= first)
      ((call.rename π).object position >>= second) := by
  simp only [Call.object, Call.arguments_rename, List.getElem?_map, Call.typeError_rename]
  cases hvalue : call.arguments[position]? with
  | none => exact .error (by simp [Call.typeError, MethodError.Ordinary])
  | some value =>
      cases value with
      | object handle =>
          exact hnext handle (Heap.holds_object.mp (hcall _ (List.mem_of_getElem? hvalue)))
      | _ => exact .error (by simp [Call.typeError, MethodError.Ordinary])

theorem unknown {kind : String} :
    Agrees MethodError.Ordinary related (.error (call.unknown kind))
      (.error ((call.rename π).unknown kind)) :=
  .error (by simp [Call.unknown, MethodError.Ordinary])

theorem fail {reason : String} :
    Agrees MethodError.Ordinary related (.error (call.fail reason))
      (.error ((call.rename π).fail reason)) :=
  .error (by simp [Call.fail, MethodError.Ordinary])

end Agrees

namespace Effect

variable {α : Type}

/-- What a call leaves behind on a heap and on its mirror is the same under a renaming, and holds
valid handles only. The state of the component is wrapped into a component. -/
structure Mirrors (wrap : α → Component) (σ : Equiv.Perm Handle) (effect mirror : Effect α) :
    Prop where
  heap : effect.heap.Mirrors σ mirror.heap
  state_eq : wrap mirror.state = (wrap effect.state).rename σ
  covers : effect.heap.Covers (wrap effect.state).references
  value_eq : mirror.value = effect.value.rename σ
  holds : effect.heap.Holds effect.value
  warnings_eq : mirror.warnings = effect.warnings

/-- What a call leaves behind on a heap and on its mirror is the same under a larger renaming. -/
def MirrorsAfter (wrap : α → Component) (π : Equiv.Perm Handle) (before : Heap)
    (effect mirror : Effect α) : Prop :=
  ∃ σ, Heap.Later π before σ effect.heap ∧ Mirrors wrap σ effect mirror

namespace MirrorsAfter

variable {wrap : α → Component} {π : Equiv.Perm Handle} {heap mirror : Heap} {state state' : α}

theorem quiet (hheap : heap.Mirrors π mirror) (hstate : wrap state' = (wrap state).rename π)
    (hcovers : heap.Covers (wrap state).references) {value value' : Value}
    (hvalue : value' = value.rename π) (hholds : heap.Holds value) {warnings : List String} :
    MirrorsAfter wrap π heap ⟨state, heap, value, warnings⟩ ⟨state', mirror, value', warnings⟩ :=
  ⟨π, .refl π heap, hheap, hstate, hcovers, hvalue, hholds, rfl⟩

theorem made (hheap : heap.Mirrors π mirror) (hstate : wrap state' = (wrap state).rename π)
    (hcovers : heap.Covers (wrap state).references) {component component' : Component}
    (hcomponent : component' = component.rename π) (hnew : heap.Covers component.references) :
    MirrorsAfter wrap π heap (.made state heap component) (.made state' mirror component') := by
  subst hcomponent
  obtain ⟨σ, hlater, hafter, hhandle⟩ := hheap.alloc hnew
  refine ⟨σ, hlater, hafter, ?_, hlater.covers hcovers, ?_, ?_, rfl⟩
  · exact hstate.trans (hlater.rename_component hcovers).symm
  · exact congrArg Value.object hhandle.symm
  · exact Heap.holds_object.mpr (hheap.wellFormed.isValid_alloc_self component)

theorem of_later {σ : Equiv.Perm Handle} {later : Heap} (hlater : heap.Later π σ later)
    {effect effect' : Effect α} (heffect : MirrorsAfter wrap σ later effect effect') :
    MirrorsAfter wrap π heap effect effect' := by
  obtain ⟨τ, hlast, hmirrors⟩ := heffect
  exact ⟨τ, hlater.trans hlast, hmirrors⟩

theorem madeAll (hheap : heap.Mirrors π mirror) (hstate : wrap state' = (wrap state).rename π)
    (hcovers : heap.Covers (wrap state).references) {components components' : List Component}
    (hcomponents : components' = components.map (Component.rename π))
    (hnew : ∀ component ∈ components, heap.Covers component.references) :
    MirrorsAfter wrap π heap
      (.made state (heap.allocAll components).2 (.array (heap.allocAll components).1.toArray))
      (.made state' (mirror.allocAll components').2
        (.array (mirror.allocAll components').1.toArray)) := by
  subst hcomponents
  obtain ⟨σ, hlater, hafter, hvalues, hholds⟩ := hheap.allocAll hnew
  refine .of_later hlater (.made hafter ?_ (hlater.covers hcovers) ?_ ?_)
  · exact hstate.trans (hlater.rename_component hcovers).symm
  · rw [hvalues, Component.rename, List.map_toArray]
  · exact Heap.covers_handles.mpr hholds

theorem wrapped {effect effect' : Effect α} (heffect : MirrorsAfter wrap π heap effect effect') :
    MirrorsAfter id π heap (effect.map wrap) (effect'.map wrap) := by
  obtain ⟨σ, hlater, hmirrors⟩ := heffect
  exact ⟨σ, hlater, hmirrors.heap, hmirrors.state_eq, hmirrors.covers, hmirrors.value_eq,
    hmirrors.holds, hmirrors.warnings_eq⟩

end MirrorsAfter

end Effect

end BrightScript
