import BrightScript.Method.Dispatch
import BrightScript.Proofs.Method.Failure
import BrightScript.Proofs.Renaming.Node
import BrightScript.Proofs.Renaming.Text
import BrightScript.Proofs.Renaming.Xml

namespace BrightScript

namespace Component

variable {π : Equiv.Perm Handle} {heap mirror : Heap} {catalog : NodeCatalog} {this : Handle}
  {component : Component}

theorem agrees_call (hheap : heap.Mirrors π mirror) (hthis : heap.isValid this = true)
    (hcomponent : heap.Covers component.references) (hcatalog : heap.Covers catalog.references)
    (call : Call) (hcall : ∀ value ∈ call.arguments, heap.Holds value) :
    Agrees MethodError.Ordinary (Effect.MirrorsAfter id π heap)
      (component.call heap catalog this call)
      ((component.rename π).call mirror (catalog.rename π) (π this) (call.rename π)) := by
  cases component with
  | array items =>
      simp only [Component.rename, call_array]
      exact (ArrayMethod.agrees_call hheap (Heap.covers_array.mp hcomponent) hcall).map
        fun _ _ hpair => hpair.effect hheap
  | table entries =>
      simp only [Component.rename, call_table]
      exact (TableMethod.agrees_call hheap (Heap.covers_table.mp hcomponent) hcall).map
        fun _ _ heffect => heffect.wrapped
  | list items =>
      simp only [Component.rename, call_list]
      exact (ListMethod.agrees_call (Heap.covers_list.mp hcomponent) hcall).map
        fun _ _ hpair => hpair.effect hheap
  | timespan start =>
      simp only [Component.rename, call_timespan, hheap.clock_eq]
      exact (TimespanMethod.agrees_call heap).map fun _ _ hpair => hpair.effect hheap
  | regex data =>
      simp only [Component.rename, call_regex]
      exact (RegexMethod.agrees_call hheap).map fun _ _ heffect => heffect.wrapped
  | text value =>
      simp only [Component.rename, call_text]
      exact (TextMethod.agrees_call heap).map fun _ _ hpair => hpair.effect hheap
  | element data =>
      simp only [Component.rename, call_element]
      exact (ElementMethod.agrees_call hheap hcomponent hcall).map
        fun _ _ heffect => heffect.wrapped
  | elementList elements =>
      simp only [Component.rename, call_elementList]
      exact (ElementListMethod.agrees_call hheap hcomponent hcall).map
        fun _ _ heffect => heffect.wrapped
  | node data =>
      simp only [Component.rename, call_node]
      exact (NodeMethod.agrees_call hheap hthis hcomponent hcatalog hcall).map
        fun _ _ heffect => heffect.wrapped
  | host object => exact .unknown

theorem agrees_member (hcomponent : heap.Covers component.references) (name : String) :
    Agrees MethodError.Ordinary (fun value value' => value' = value.rename π ∧ heap.Holds value)
      (component.member name) ((component.rename π).member name) := by
  have hfield : ∀ {fields : NameMap Value}, (∀ value ∈ fields.values, heap.Holds value) →
      ((fields.mapValues (Value.rename π)).get? name).getD .invalid =
        ((fields.get? name).getD .invalid).rename π ∧
        heap.Holds ((fields.get? name).getD .invalid) := by
    intro fields hfields
    refine ⟨by rw [Dictionary.get?_mapValues, Value.getD_map_rename], ?_⟩
    exact Heap.holds_getD fun value hvalue => hfields value (Dictionary.mem_values_of_get? hvalue)
  cases component with
  | table entries => exact .ok (hfield (Heap.covers_table.mp hcomponent))
  | node data => exact .ok (hfield (Heap.covers_node.mp hcomponent).1)
  | host object => exact .ok (hfield (Heap.covers_handles.mp hcomponent))
  | _ => exact .error (by simp [MethodError.Ordinary])

theorem agrees_setMember (hcomponent : heap.Covers component.references) (name : String)
    {value : Value} (hvalue : heap.Holds value) :
    Agrees MethodError.Ordinary
      (fun new new' => new' = Component.rename π new ∧ heap.Covers new.references)
      (component.setMember name value) ((component.rename π).setMember name (value.rename π)) := by
  have hinsert : ∀ {fields : NameMap Value} {name : String},
      (∀ value ∈ fields.values, heap.Holds value) →
      ∀ other ∈ (fields.insert name value).values, heap.Holds other := by
    intro fields name hfields other hother
    rcases Dictionary.mem_values_insert hother with rfl | hother
    · exact hvalue
    · exact hfields other hother
  cases component with
  | table entries =>
      refine .ok ⟨?_, Heap.covers_table.mpr (hinsert (Heap.covers_table.mp hcomponent))⟩
      exact congrArg Component.table (Dictionary.mapValues_insert _ _ _ _)
  | node data =>
      refine .ok ⟨?_, Node.covers_setField hcomponent name hvalue⟩
      simp only [Component.rename, Node.setField, Node.rename, Dictionary.mapValues_insert]
  | host object =>
      refine .ok ⟨?_, Heap.covers_handles.mpr (hinsert (Heap.covers_handles.mp hcomponent))⟩
      simp only [Component.rename, HostObject.setField, HostObject.rename,
        Dictionary.mapValues_insert]
  | _ => exact .error (by simp [MethodError.Ordinary])

end Component

namespace Heap

/-- No component is lent out. -/
def Settled (heap : Heap) : Prop :=
  ∀ handle, heap.isValid handle = true → ∃ component, heap.get? handle = some component

variable {π σ : Equiv.Perm Handle} {heap mirror : Heap} {this : Handle}

theorem Settled.later {later : Heap} (hheap : heap.Settled) (hlater : later.Settled)
    (hagrees : ∀ {handle : Handle}, heap.isValid handle = true → σ handle = π handle)
    (hvalid : ∀ {handle : Handle}, heap.isValid handle = true → later.isValid handle = true) :
    Later π heap σ later where
  agrees := hagrees
  isValid := hvalid
  lent_iff := by
    intro handle hhandle
    obtain ⟨component, hget⟩ := hlater handle hhandle
    rw [hget]
    constructor
    · intro hnone
      cases hnone
    · rintro ⟨hbefore, hnone⟩
      obtain ⟨old, hold⟩ := hheap handle hbefore
      rw [hold] at hnone
      cases hnone

theorem Settled.of_later {later : Heap} (hheap : heap.Settled) (hlater : Later π heap σ later) :
    later.Settled := by
  intro handle hhandle
  cases hget : later.get? handle with
  | some component => exact ⟨component, rfl⟩
  | none =>
      obtain ⟨hbefore, hnone⟩ := (hlater.lent_iff hhandle).mp hget
      obtain ⟨component, hcomponent⟩ := hheap handle hbefore
      rw [hcomponent] at hnone
      cases hnone

/-- The component of a call is put back on both sides, and the heap is settled again. -/
theorem Mirrors.giveBack {later later' : Heap} (hsettled : heap.Settled)
    (hthis : heap.isValid this = true) (hlater : Later π (heap.lend this) σ later)
    (hmirrors : Mirrors σ later later') {component : Component}
    (hcovers : later.Covers component.references) :
    (later.restore this component).Settled ∧ Later π heap σ (later.restore this component) ∧
      Mirrors σ (later.restore this component)
        (later'.restore (π this) (component.rename σ)) := by
  have hlent : (heap.lend this).isValid this = true := by rw [isValid_lend, hthis]
  have hvalid := hlater.isValid hlent
  have hnone : later.get? this = none :=
    (hlater.lent_iff hvalid).mpr ⟨hlent, get?_lend_self heap this⟩
  have hafter : (later.restore this component).Settled := by
    intro handle hhandle
    rw [isValid_restore] at hhandle
    rw [get?_restore hvalid hnone]
    by_cases hsame : this = handle
    · exact ⟨component, if_pos hsame⟩
    · rw [if_neg hsame]
      cases hget : later.get? handle with
      | some held => exact ⟨held, rfl⟩
      | none =>
          obtain ⟨hbefore, hbeforeNone⟩ := (hlater.lent_iff hhandle).mp hget
          rw [isValid_lend] at hbefore
          rw [get?_lend, if_neg hsame] at hbeforeNone
          obtain ⟨held, hheld⟩ := hsettled handle hbefore
          rw [hheld] at hbeforeNone
          cases hbeforeNone
  refine ⟨hafter, hsettled.later hafter ?_ ?_, ?_⟩
  · intro handle hhandle
    exact hlater.agrees (by rw [isValid_lend, hhandle])
  · intro handle hhandle
    rw [isValid_restore]
    exact hlater.isValid (by rw [isValid_lend, hhandle])
  · rw [← hlater.agrees hlent]
    exact hmirrors.restore hvalid hnone hcovers

/-- A method call does the same on a heap and on its mirror. -/
theorem Mirrors.callMethod (hheap : Mirrors π heap mirror) (hsettled : heap.Settled)
    (hthis : heap.isValid this = true) {catalog : NodeCatalog}
    (hcatalog : heap.Covers catalog.references) (method : String) {arguments : List Value}
    (harguments : ∀ value ∈ arguments, heap.Holds value) :
    let called := heap.callMethod catalog this method arguments
    let called' := mirror.callMethod (catalog.rename π) (π this) method
      (arguments.map (Value.rename π))
    called'.warnings = called.warnings ∧ called.heap.Settled ∧
      ∃ σ, Later π heap σ called.heap ∧ Mirrors σ called.heap called'.heap ∧
        Agrees MethodError.Ordinary
          (fun value value' => value' = value.rename σ ∧ called.heap.Holds value)
          called.result called'.result := by
  obtain ⟨component, hget⟩ := hsettled this hthis
  have hkept : ∀ {handles : List Handle}, heap.Covers handles →
      (heap.lend this).Covers handles := by
    intro handles hhandles handle hhandle
    rw [isValid_lend, hhandles handle hhandle]
  have hcall : ∀ value ∈ arguments, (heap.lend this).Holds value :=
    covers_handles.mp (hkept (covers_handles.mpr harguments))
  have hagrees := Component.agrees_call (hheap.lend this) (by rw [isValid_lend, hthis])
    (hkept (hheap.covers hget)) (hkept hcatalog) ⟨Name.key method, arguments⟩ hcall
  change Agrees _ _ _ ((component.rename π).call (mirror.lend (π this)) (catalog.rename π) (π this)
    ⟨Name.key method, arguments.map (Value.rename π)⟩) at hagrees
  have hget' := hheap.get?_of_get? hget
  generalize hresult : component.call (heap.lend this) catalog this _ = result at hagrees
  generalize hresult' : (component.rename π).call (mirror.lend (π this)) _ _ _ = result' at hagrees
  cases hagrees with
  | @ok effect effect' heffect =>
      rw [callMethod_of_ok hget hresult, callMethod_of_ok hget' hresult']
      obtain ⟨σ, hlater, hmirrors⟩ := heffect
      obtain ⟨hafter, hwhole, hback⟩ := giveBack hsettled hthis hlater hmirrors.heap hmirrors.covers
      have hstate : effect'.state = effect.state.rename σ := hmirrors.state_eq
      refine ⟨hmirrors.warnings_eq, hafter, σ, hwhole, ?_, .ok ⟨hmirrors.value_eq, ?_⟩⟩
      · change Mirrors σ _ (effect'.heap.restore (π this) effect'.state)
        rw [hstate]
        exact hback
      · intro handle hhandle
        rw [isValid_restore, hmirrors.holds handle hhandle]
  | error hordinary =>
      rw [callMethod_of_error hget hresult, callMethod_of_error hget' hresult']
      exact ⟨rfl, hsettled, π, .refl π heap, hheap, .error hordinary⟩

theorem Mirrors.getMember (hheap : Mirrors π heap mirror) (hsettled : heap.Settled)
    (hthis : heap.isValid this = true) (name : String) :
    Agrees MethodError.Ordinary (fun value value' => value' = value.rename π ∧ heap.Holds value)
      (heap.getMember this name) (mirror.getMember (π this) name) := by
  obtain ⟨component, hget⟩ := hsettled this hthis
  simp only [Heap.getMember, hget, hheap.get?_of_get? hget]
  exact Component.agrees_member (hheap.covers hget) name

theorem Mirrors.writeMember (hheap : Mirrors π heap mirror) (hsettled : heap.Settled)
    (hthis : heap.isValid this = true) (name : String) {value : Value} (hvalue : heap.Holds value) :
    let written := heap.writeMember this name value
    let written' := mirror.writeMember (π this) name (value.rename π)
    Later π heap π written.2 ∧ Mirrors π written.2 written'.2 ∧
      Agrees MethodError.Ordinary Eq written.1 written'.1 := by
  obtain ⟨component, hget⟩ := hsettled this hthis
  have hget' := hheap.get?_of_get? hget
  have hagrees := Component.agrees_setMember (π := π) (hheap.covers hget) name hvalue
  generalize hresult : component.setMember name value = result at hagrees
  generalize hresult' : (component.rename π).setMember name (value.rename π) = result' at hagrees
  cases hagrees with
  | ok hnew =>
      obtain ⟨rfl, hcovers⟩ := hnew
      rw [writeMember_of_ok hget hresult, writeMember_of_ok hget' hresult']
      exact ⟨Mirrors.later_set π heap this _, hheap.set this hcovers, .ok rfl⟩
  | error hordinary =>
      rw [writeMember_of_error hget hresult, writeMember_of_error hget' hresult']
      exact ⟨.refl π heap, hheap, .error hordinary⟩

end Heap

end BrightScript
