import BrightScript.Proofs.Heap.Collection
import BrightScript.Proofs.Renaming.Value

/-!
Heaps that mirror each other: the one holds, under renamed handles, every component of the other,
and perhaps components that the other has freed. New components enlarge the renaming, updates keep
it, and garbage that is collected on the mirrored side alone does not disturb it.
-/

namespace BrightScript.Heap

/-- All handles of a list are valid. -/
def Covers (heap : Heap) (handles : List Handle) : Prop :=
  ∀ handle ∈ handles, heap.isValid handle = true

/-- A value is not a handle, or a valid one. -/
def Holds (heap : Heap) (value : Value) : Prop :=
  ∀ handle, value.object? = some handle → heap.isValid handle = true

section Holds

variable {heap : Heap}

@[simp] theorem holds_invalid : heap.Holds .invalid := by simp [Holds, Value.object?]
@[simp] theorem holds_boolean {value : Bool} : heap.Holds (.boolean value) := by
  simp [Holds, Value.object?]
@[simp] theorem holds_integer {value : Int64} : heap.Holds (.integer value) := by
  simp [Holds, Value.object?]
@[simp] theorem holds_float {value : Float} : heap.Holds (.float value) := by
  simp [Holds, Value.object?]
@[simp] theorem holds_text {value : String} : heap.Holds (.text value) := by
  simp [Holds, Value.object?]
@[simp] theorem holds_ofNat {number : Nat} : heap.Holds (.ofNat number) := holds_integer
@[simp] theorem holds_object {handle : Handle} :
    heap.Holds (.object handle) ↔ heap.isValid handle = true := by
  simp [Holds, Value.object?]

@[simp] theorem holds_ofHandle? {handle : Option Handle} :
    heap.Holds (.ofHandle? handle) ↔ heap.Covers handle.toList := by
  cases handle <;> simp [Value.ofHandle?, Covers]

theorem holds_getD {value : Option Value} (hholds : ∀ held, value = some held → heap.Holds held) :
    heap.Holds (value.getD .invalid) := by
  cases value with
  | none => exact holds_invalid
  | some held => exact hholds held rfl

@[simp] theorem covers_nil : heap.Covers [] := by simp [Covers]

@[simp] theorem covers_append {first second : List Handle} :
    heap.Covers (first ++ second) ↔ heap.Covers first ∧ heap.Covers second := by
  simp [Covers, or_imp, forall_and]

@[simp] theorem covers_handles {values : List Value} :
    heap.Covers (Value.handles values) ↔ ∀ value ∈ values, heap.Holds value := by
  constructor
  · intro hcovers value hvalue handle hhandle
    exact hcovers handle (List.mem_filterMap.mpr ⟨value, hvalue, hhandle⟩)
  · intro hholds handle hhandle
    exact holds_object.mp (hholds _ (Value.mem_handles.mp hhandle))

theorem covers_subset {first second : List Handle} (hsubset : first ⊆ second)
    (hcovers : heap.Covers second) : heap.Covers first :=
  fun handle hhandle => hcovers handle (hsubset hhandle)

end Holds

/-- Makes components one after the other; gives their handles. -/
def allocAll (heap : Heap) : List Component → List Value × Heap
  | [] => ([], heap)
  | component :: rest =>
    let (handle, heap) := heap.alloc component
    let (values, heap) := heap.allocAll rest
    (.object handle :: values, heap)

/-- The mirror holds the components of a heap under renamed handles. The components of the heap hold
only handles that are valid. -/
structure Mirrors (π : Equiv.Perm Handle) (heap mirror : Heap) : Prop where
  wellFormed : heap.WellFormed
  wellFormed_mirror : mirror.WellFormed
  clock_eq : mirror.clock = heap.clock
  isValid : ∀ {handle : Handle}, heap.isValid handle = true → mirror.isValid (π handle) = true
  get?_eq : ∀ {handle : Handle}, heap.isValid handle = true →
    mirror.get? (π handle) = (heap.get? handle).map (Component.rename π)
  covers : ∀ {handle : Handle} {component : Component}, heap.get? handle = some component →
    heap.Covers component.references

/-- A heap at a later time, when the renaming may have been enlarged: what was valid still is, under
the same name, and the same components are lent out. -/
structure Later (π : Equiv.Perm Handle) (heap : Heap) (σ : Equiv.Perm Handle) (later : Heap) :
    Prop where
  agrees : ∀ {handle : Handle}, heap.isValid handle = true → σ handle = π handle
  isValid : ∀ {handle : Handle}, heap.isValid handle = true → later.isValid handle = true
  lent_iff : ∀ {handle : Handle}, later.isValid handle = true →
    (later.get? handle = none ↔ heap.isValid handle = true ∧ heap.get? handle = none)

namespace Later

theorem refl (π : Equiv.Perm Handle) (heap : Heap) : Later π heap π heap where
  agrees _ := rfl
  isValid hvalid := hvalid
  lent_iff hvalid := by simp [hvalid]

theorem trans {π σ τ : Equiv.Perm Handle} {first second third : Heap}
    (h₁ : Later π first σ second) (h₂ : Later σ second τ third) : Later π first τ third where
  agrees hvalid := (h₂.agrees (h₁.isValid hvalid)).trans (h₁.agrees hvalid)
  isValid hvalid := h₂.isValid (h₁.isValid hvalid)
  lent_iff hvalid := by
    rw [h₂.lent_iff hvalid]
    constructor
    · rintro ⟨hsecond, hnone⟩
      exact (h₁.lent_iff hsecond).mp hnone
    · rintro ⟨hfirst, hnone⟩
      have hsecond := h₁.isValid hfirst
      exact ⟨hsecond, (h₁.lent_iff hsecond).mpr ⟨hfirst, hnone⟩⟩

theorem covers {π σ : Equiv.Perm Handle} {heap later : Heap} (hlater : Later π heap σ later)
    {handles : List Handle} (hcovers : heap.Covers handles) : later.Covers handles :=
  fun handle hhandle => hlater.isValid (hcovers handle hhandle)

theorem rename_component {π σ : Equiv.Perm Handle} {heap later : Heap}
    (hlater : Later π heap σ later) {component : Component}
    (hcovers : heap.Covers component.references) : component.rename σ = component.rename π :=
  Component.rename_congr fun handle hhandle => hlater.agrees (hcovers handle hhandle)

theorem rename_value {π σ : Equiv.Perm Handle} {heap later : Heap} (hlater : Later π heap σ later)
    {value : Value} (hholds : heap.Holds value) : value.rename σ = value.rename π :=
  Value.rename_congr fun handle hhandle => hlater.agrees (hholds handle hhandle)

end Later

namespace Mirrors

theorem get?_of_get? {π : Equiv.Perm Handle} {heap mirror : Heap} (hheap : Mirrors π heap mirror)
    {handle : Handle} {component : Component} (hget : heap.get? handle = some component) :
    mirror.get? (π handle) = some (component.rename π) := by
  rw [hheap.get?_eq (isValid_of_get? hget), hget, Option.map_some]

theorem refl {heap : Heap} (hheap : heap.WellFormed)
    (hcovers : ∀ {handle : Handle} {component : Component}, heap.get? handle = some component →
      heap.Covers component.references) : Mirrors 1 heap heap where
  wellFormed := hheap
  wellFormed_mirror := hheap
  clock_eq := rfl
  isValid hvalid := hvalid
  get?_eq {handle} _ := by
    rw [Equiv.Perm.coe_one]
    cases hget : heap.get? handle <;> simp [hget]
  covers := hcovers

theorem atTime {π : Equiv.Perm Handle} {heap mirror : Heap} (hheap : Mirrors π heap mirror)
    (time : Nat) : Mirrors π (heap.atTime time) (mirror.atTime time) where
  wellFormed := hheap.wellFormed.atTime time
  wellFormed_mirror := hheap.wellFormed_mirror.atTime time
  clock_eq := rfl
  isValid := hheap.isValid
  get?_eq := hheap.get?_eq
  covers := hheap.covers

theorem swap_mul_of_ne {π : Equiv.Perm Handle} {new new' handle : Handle} (hnew : new ≠ handle)
    (hnew' : new' ≠ π handle) : (Equiv.swap (π new) new' * π) handle = π handle := by
  rw [Equiv.Perm.mul_apply]
  exact Equiv.swap_apply_of_ne_of_ne (fun hsame => hnew (π.injective hsame).symm) hnew'.symm

theorem later_alloc {π σ : Equiv.Perm Handle} {heap : Heap} (hheap : heap.WellFormed)
    (component : Component)
    (hagrees : ∀ {handle : Handle}, heap.isValid handle = true → σ handle = π handle) :
    Later π heap σ (heap.alloc component).2 := by
  have hfresh := hheap.isValid_alloc_fst component
  constructor
  · exact hagrees
  · intro handle hhandle
    rw [hheap.isValid_alloc, hhandle, Bool.or_true]
  · intro handle hhandle
    rw [hheap.get?_alloc]
    split
    · rename_i hsame
      simp [← hsame, hfresh]
    · rename_i hdiffer
      rw [hheap.isValid_alloc, decide_eq_false hdiffer, Bool.false_or] at hhandle
      simp [hhandle]

/-- Both sides get a new component; the renaming is enlarged by its two handles. -/
theorem alloc {π : Equiv.Perm Handle} {heap mirror : Heap} (hheap : Mirrors π heap mirror)
    {component : Component} (hcovers : heap.Covers component.references) :
    ∃ σ : Equiv.Perm Handle, Later π heap σ (heap.alloc component).2 ∧
      Mirrors σ (heap.alloc component).2 (mirror.alloc (component.rename π)).2 ∧
      σ (heap.alloc component).1 = (mirror.alloc (component.rename π)).1 := by
  have hfresh := hheap.wellFormed.isValid_alloc_fst component
  have hfresh' := hheap.wellFormed_mirror.isValid_alloc_fst (component.rename π)
  have hvalid := hheap.wellFormed.isValid_alloc component
  have hvalid' := hheap.wellFormed_mirror.isValid_alloc (component.rename π)
  have hget := hheap.wellFormed.get?_alloc component
  have hget' := hheap.wellFormed_mirror.get?_alloc (component.rename π)
  set new := (heap.alloc component).1
  set new' := (mirror.alloc (component.rename π)).1
  -- neither new handle was in use, so that enlarging the renaming leaves what it said alone
  have hold : ∀ {handle : Handle}, heap.isValid handle = true → new ≠ handle := by
    rintro handle hhandle rfl
    rw [hfresh] at hhandle
    cases hhandle
  have hold' : ∀ {handle : Handle}, heap.isValid handle = true → new' ≠ π handle := by
    intro handle hhandle hsame
    rw [hsame, hheap.isValid hhandle] at hfresh'
    cases hfresh'
  have hagrees : ∀ {handle : Handle}, heap.isValid handle = true →
      (Equiv.swap (π new) new' * π) handle = π handle := fun hhandle =>
    swap_mul_of_ne (hold hhandle) (hold' hhandle)
  have hnew : (Equiv.swap (π new) new' * π) new = new' := by
    rw [Equiv.Perm.mul_apply, Equiv.swap_apply_left]
  have hlater := later_alloc hheap.wellFormed component hagrees
  refine ⟨Equiv.swap (π new) new' * π, hlater, ?_, hnew⟩
  constructor
  · exact hheap.wellFormed.alloc component
  · exact hheap.wellFormed_mirror.alloc (component.rename π)
  · rw [clock_alloc, clock_alloc, hheap.clock_eq]
  · intro handle hhandle
    rw [hvalid']
    by_cases hsame : new = handle
    · rw [← hsame, hnew, decide_eq_true rfl, Bool.true_or]
    · rw [hvalid, decide_eq_false hsame, Bool.false_or] at hhandle
      rw [hagrees hhandle, hheap.isValid hhandle, Bool.or_true]
  · intro handle hhandle
    rw [hget, hget']
    by_cases hsame : new = handle
    · rw [← hsame, hnew, if_pos rfl, if_pos rfl, Option.map_some, hlater.rename_component hcovers]
    · rw [hvalid, decide_eq_false hsame, Bool.false_or] at hhandle
      rw [hagrees hhandle, if_neg (hold' hhandle), if_neg hsame, hheap.get?_eq hhandle]
      cases hcomponent : heap.get? handle with
      | none => rfl
      | some held =>
          rw [Option.map_some, Option.map_some,
            hlater.rename_component (hheap.covers hcomponent)]
  · intro handle held hheld
    rw [hget] at hheld
    split at hheld
    · cases hheld
      exact hlater.covers hcovers
    · exact hlater.covers (hheap.covers hheld)

theorem allocAll {π : Equiv.Perm Handle} {heap mirror : Heap} (hheap : Mirrors π heap mirror)
    {components : List Component}
    (hcovers : ∀ component ∈ components, heap.Covers component.references) :
    ∃ σ : Equiv.Perm Handle, Later π heap σ (heap.allocAll components).2 ∧
      Mirrors σ (heap.allocAll components).2
        (mirror.allocAll (components.map (Component.rename π))).2 ∧
      (mirror.allocAll (components.map (Component.rename π))).1 =
        (heap.allocAll components).1.map (Value.rename σ) ∧
      ∀ value ∈ (heap.allocAll components).1, (heap.allocAll components).2.Holds value := by
  induction components generalizing π heap mirror with
  | nil => exact ⟨π, .refl π heap, hheap, rfl, by simp [Heap.allocAll]⟩
  | cons component components ih =>
      obtain ⟨σ, hlater, hafter, hhandle⟩ := hheap.alloc (hcovers component List.mem_cons_self)
      have hrest : ∀ component ∈ components, heap.Covers component.references :=
        fun component hcomponent => hcovers component (List.mem_cons_of_mem _ hcomponent)
      have hsame : components.map (Component.rename σ) = components.map (Component.rename π) :=
        List.map_congr_left fun component hcomponent =>
          hlater.rename_component (hrest component hcomponent)
      obtain ⟨τ, hlast, hend, hvalues, hholds⟩ :=
        ih hafter fun component hcomponent => hlater.covers (hrest component hcomponent)
      have hnew := hheap.wellFormed.isValid_alloc_self component
      rw [hsame] at hend hvalues
      simp only [Heap.allocAll, List.map_cons]
      refine ⟨τ, hlater.trans hlast, hend, ?_, ?_⟩
      · rw [hvalues, Value.rename_object, hlast.agrees hnew, hhandle]
      · intro value hvalue
        rcases List.mem_cons.mp hvalue with rfl | hvalue
        · exact holds_object.mpr (hlast.isValid hnew)
        · exact hholds value hvalue

theorem set {π : Equiv.Perm Handle} {heap mirror : Heap} (hheap : Mirrors π heap mirror)
    (handle : Handle) {component : Component} (hcovers : heap.Covers component.references) :
    Mirrors π (heap.set handle component) (mirror.set (π handle) (component.rename π)) where
  wellFormed := hheap.wellFormed.set handle component
  wellFormed_mirror := hheap.wellFormed_mirror.set (π handle) (component.rename π)
  clock_eq := by rw [clock_set, clock_set, hheap.clock_eq]
  isValid := by
    intro other hother
    rw [isValid_set] at hother ⊢
    exact hheap.isValid hother
  get?_eq := by
    intro other hother
    rw [isValid_set] at hother
    rw [get?_set, get?_set]
    by_cases hsame : handle = other
    · subst hsame
      rw [if_pos rfl, if_pos rfl, hheap.get?_eq hother, Option.map_map, Option.map_map]
      rfl
    · rw [if_neg hsame, if_neg (fun h => hsame (π.injective h)), hheap.get?_eq hother]
  covers := by
    intro other held hheld
    have hkept : ∀ {handles : List Handle}, heap.Covers handles →
        (heap.set handle component).Covers handles := by
      intro handles hhandles other hother
      rw [isValid_set, hhandles other hother]
    rw [get?_set] at hheld
    split at hheld
    · obtain ⟨old, -, rfl⟩ := Option.map_eq_some_iff.mp hheld
      exact hkept hcovers
    · exact hkept (hheap.covers hheld)

theorem later_set (π : Equiv.Perm Handle) (heap : Heap) (handle : Handle) (component : Component) :
    Later π heap π (heap.set handle component) where
  agrees _ := rfl
  isValid hvalid := by rw [isValid_set, hvalid]
  lent_iff := by
    intro other hother
    rw [isValid_set] at hother
    rw [get?_set]
    split
    · rename_i hsame
      rw [← hsame, Option.map_eq_none_iff, hsame]
      simp [hother]
    · simp [hother]

theorem lend {π : Equiv.Perm Handle} {heap mirror : Heap} (hheap : Mirrors π heap mirror)
    (handle : Handle) : Mirrors π (heap.lend handle) (mirror.lend (π handle)) where
  wellFormed := hheap.wellFormed.lend handle
  wellFormed_mirror := hheap.wellFormed_mirror.lend (π handle)
  clock_eq := by rw [clock_lend, clock_lend, hheap.clock_eq]
  isValid := by
    intro other hother
    rw [isValid_lend] at hother ⊢
    exact hheap.isValid hother
  get?_eq := by
    intro other hother
    rw [isValid_lend] at hother
    rw [get?_lend, get?_lend]
    by_cases hsame : handle = other
    · rw [if_pos hsame, if_pos (congrArg π hsame), Option.map_none]
    · rw [if_neg hsame, if_neg (fun h => hsame (π.injective h)), hheap.get?_eq hother]
  covers := by
    intro other held hheld handle' hhandle'
    rw [isValid_lend]
    exact hheap.covers (get?_of_get?_lend hheld).2 handle' hhandle'

theorem restore {π : Equiv.Perm Handle} {heap mirror : Heap} (hheap : Mirrors π heap mirror)
    {handle : Handle} (hvalid : heap.isValid handle = true) (hlent : heap.get? handle = none)
    {component : Component} (hcovers : heap.Covers component.references) :
    Mirrors π (heap.restore handle component) (mirror.restore (π handle) (component.rename π)) := by
  have hvalid' := hheap.isValid hvalid
  have hlent' : mirror.get? (π handle) = none := by
    rw [hheap.get?_eq hvalid, hlent, Option.map_none]
  constructor
  · exact hheap.wellFormed.restore handle component
  · exact hheap.wellFormed_mirror.restore (π handle) (component.rename π)
  · rw [clock_restore, clock_restore, hheap.clock_eq]
  · intro other hother
    rw [isValid_restore] at hother ⊢
    exact hheap.isValid hother
  · intro other hother
    rw [isValid_restore] at hother
    rw [get?_restore hvalid hlent, get?_restore hvalid' hlent']
    by_cases hsame : handle = other
    · rw [if_pos hsame, if_pos (congrArg π hsame), Option.map_some]
    · rw [if_neg hsame, if_neg (fun h => hsame (π.injective h)), hheap.get?_eq hother]
  · intro other held hheld handle' hhandle'
    rw [isValid_restore]
    rw [get?_restore hvalid hlent] at hheld
    split at hheld
    · cases hheld
      exact hcovers handle' hhandle'
    · exact hheap.covers hheld handle' hhandle'

/-- The mirrored side may collect garbage alone. -/
theorem collect {π : Equiv.Perm Handle} {heap mirror : Heap} (hheap : Mirrors π heap mirror)
    (roots : List Handle) : Mirrors π (heap.collect roots) mirror := by
  have hbefore : ∀ {handle : Handle}, (heap.collect roots).isValid handle = true →
      (heap.collect roots).slot? handle = heap.slot? handle := by
    intro handle hvalid
    obtain ⟨slot, hslot⟩ := isValid_iff.mp hvalid
    rw [hslot, ((hheap.wellFormed.slot?_collect_eq_some_iff roots).mp hslot).1]
  have hvalid : ∀ {handle : Handle}, (heap.collect roots).isValid handle = true →
      heap.isValid handle = true := by
    intro handle hvalid
    rw [Heap.isValid, ← hbefore hvalid]
    exact hvalid
  constructor
  · exact hheap.wellFormed.collect roots
  · exact hheap.wellFormed_mirror
  · rw [clock_collect, hheap.clock_eq]
  · exact fun hhandle => hheap.isValid (hvalid hhandle)
  · intro handle hhandle
    rw [hheap.get?_eq (hvalid hhandle), get?, get?, hbefore hhandle]
  · intro handle component hget other hother
    obtain ⟨hget, hreach⟩ := hheap.wellFormed.get?_collect.mp hget
    exact (hheap.wellFormed.reaches_collect
      (hreach.step hget hother (hheap.covers hget other hother))).isValid

end Mirrors

end BrightScript.Heap
