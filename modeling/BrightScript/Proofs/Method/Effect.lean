import BrightScript.Proofs.Method.Failure
import BrightScript.Proofs.Method.Growth

namespace BrightScript.Heap

/-- A call gives a new component under a handle that meant nothing before, and changes nothing
else. -/
structure CallResult.Gives (called : CallResult) (before : Heap) (handle : Handle)
    (component : Component) : Prop where
  result_eq : called.result = .ok (.object handle)
  fresh : before.isValid handle = false
  get?_eq : ∀ other, called.heap.get? other =
    if handle = other then some component else before.get? other
  wellFormed : called.heap.WellFormed
  warnings_eq : called.warnings = []

variable {heap : Heap} {catalog : NodeCatalog} {this : Handle} {method : String}
  {arguments : List Value} {component new : Component}

theorem set_set (hget : heap.get? this = some component) (first second : Component) :
    (heap.set this first).set this second = heap.set this second := by
  have hfirst : (heap.set this first).get? this = some first := by
    rw [get?_set, if_pos rfl, hget]
    rfl
  rw [set, hfirst]
  simp only [set, hget]
  exact setState_setState (by simp) _

theorem lend_set (hget : heap.get? this = some component) (new : Component) :
    (heap.set this new).lend this = heap.lend this := by
  simp only [lend, set, hget]
  exact setState_setState (by simp) _

theorem callMethod_of_own (hget : heap.get? this = some component) {value : Value}
    (hcall : component.call (heap.lend this) catalog this ⟨Name.key method, arguments⟩ =
      .ok ⟨new, heap.lend this, value, []⟩) :
    heap.callMethod catalog this method arguments = ⟨.ok value, heap.set this new, []⟩ := by
  rw [callMethod_of_ok hget hcall, restore_lend_eq_set hget]

theorem CallResult.Gives.get?_self {called : CallResult} {handle : Handle}
    (hgives : called.Gives heap handle new) : called.heap.get? handle = some new := by
  rw [hgives.get?_eq, if_pos rfl]

theorem exists_made_of_call (hheap : heap.WellFormed) (hget : heap.get? this = some component)
    {larger : Heap} (hgrows : (heap.lend this).Grows larger)
    (hcall : component.call (heap.lend this) catalog this ⟨Name.key method, arguments⟩ =
      .ok (.made component larger new)) :
    let called := heap.callMethod catalog this method arguments
    ∃ handle, called.result = .ok (.object handle) ∧ larger.isValid handle = false ∧
      (∀ other, called.heap.get? other = if handle = other then some new
        else if this = other then some component else larger.get? other) ∧
      called.heap.WellFormed ∧ called.warnings = [] := by
  intro called
  have hlarger := hgrows.wellFormed (hheap.lend this)
  have hfresh := hlarger.isValid_alloc_fst new
  -- the handle of the receiver is in use although it is out of the heap
  have hlent : (heap.lend this).isValid this = true := by
    rw [isValid_lend]
    exact isValid_of_get? hget
  have hthis := hgrows.isValid_of_isValid (hheap.lend this) hlent
  have hdiffer : (larger.alloc new).1 ≠ this := by
    intro hsame
    rw [hsame, hthis] at hfresh
    cases hfresh
  have hvalid : (larger.alloc new).2.isValid this = true := by
    rw [hlarger.isValid_alloc, hthis, Bool.or_true]
  have hout : (larger.alloc new).2.get? this = none := by
    rw [hlarger.get?_alloc, if_neg hdiffer, hgrows.get?_eq (hheap.lend this) hlent, get?_lend_self]
  have hcalled : called = ⟨.ok (.object (larger.alloc new).1),
      (larger.alloc new).2.restore this component, []⟩ := callMethod_of_ok hget hcall
  rw [hcalled]
  refine ⟨_, rfl, hfresh, fun other => ?_, (hlarger.alloc new).restore this component, rfl⟩
  change ((larger.alloc new).2.restore this component).get? other = _
  rw [get?_restore hvalid hout, hlarger.get?_alloc]
  by_cases hother : this = other
  · rw [if_pos hother, if_neg (hother ▸ hdiffer), if_pos hother]
  · rw [if_neg hother, if_neg hother]

theorem exists_gives_of_call (hheap : heap.WellFormed) (hget : heap.get? this = some component)
    (hcall : component.call (heap.lend this) catalog this ⟨Name.key method, arguments⟩ =
      .ok (.made component (heap.lend this) new)) :
    ∃ handle, (heap.callMethod catalog this method arguments).Gives heap handle new := by
  obtain ⟨handle, hresult, hfresh, hothers, hwell, hwarnings⟩ :=
    exists_made_of_call hheap hget .refl hcall
  rw [isValid_lend] at hfresh
  refine ⟨handle, hresult, hfresh, fun other => ?_, hwell, hwarnings⟩
  rw [hothers, get?_lend]
  by_cases hother : this = other
  · rw [if_pos hother, ← hother, hget]
  · rw [if_neg hother, if_neg hother]

end BrightScript.Heap
