import BrightScript.Proofs.Component.Texts
import BrightScript.Proofs.Heap.All
import BrightScript.Proofs.Method.Fields

namespace BrightScript

namespace Procedure

variable {ε σ τ α β : Type} {inv : σ → Prop} {post : α → Prop}

/-- However a computation ended, the state has a property, and its value has another. -/
def Ends (inv : σ → Prop) (post : α → Prop) : EStateM.Result ε σ α → Prop
  | .ok value after => inv after ∧ post value
  | .error _ after => inv after

/-- A computation keeps a property of the state, and gives values that have another. -/
def Keeps (inv : σ → Prop) (post : α → Prop) (run : EStateM ε σ α) : Prop :=
  ∀ state, inv state → Ends inv post (run state)

theorem Ends.check {check : Except ε α} {next : α → EStateM ε σ β} {last : β → Prop} {state : σ}
    (hstate : inv state) (hnext : ∀ value, check = .ok value → Ends inv last (next value state)) :
    Ends inv last ((liftM check >>= next : EStateM ε σ β) state) := by
  cases check with
  | ok value => exact hnext value rfl
  | error e => exact hstate

theorem Ends.leaving {f : σ → τ} {result : EStateM.Result ε σ α} {kept : τ → Prop}
    (hresult : Ends inv post result) (hf : ∀ state, inv state → kept (f state)) :
    Ends kept post (Procedure.leaving f result) := by
  cases result with
  | ok value after => exact ⟨hf after hresult.1, hresult.2⟩
  | error e after => exact hf after hresult

namespace Keeps

theorem pure {value : α} (hvalue : post value) : Keeps inv post (pure value : EStateM ε σ α) :=
  fun _ hstate => ⟨hstate, hvalue⟩

theorem throw (e : ε) : Keeps inv post (throw e : EStateM ε σ α) := fun _ hstate => hstate

theorem get : Keeps inv inv (get : EStateM ε σ σ) := fun _ hstate => ⟨hstate, hstate⟩

theorem set {new : σ} (hnew : inv new) : Keeps inv (fun _ => True) (set new : EStateM ε σ PUnit) :=
  fun _ _ => ⟨hnew, trivial⟩

theorem modify {change : σ → σ} (hchange : ∀ state, inv state → inv (change state)) :
    Keeps inv (fun _ => True) (modify change : EStateM ε σ PUnit) :=
  fun state hstate => ⟨hchange state hstate, trivial⟩

theorem modifyGet {change : σ → α × σ}
    (hchange : ∀ state, inv state → inv (change state).2 ∧ post (change state).1) :
    Keeps inv post (modifyGet change : EStateM ε σ α) :=
  hchange

theorem bind {first : EStateM ε σ α} {next : α → EStateM ε σ β} {last : β → Prop}
    (hfirst : Keeps inv post first) (hnext : ∀ value, post value → Keeps inv last (next value)) :
    Keeps inv last (first >>= next) := by
  intro state hstate
  have hkept := hfirst state hstate
  change Ends inv last (EStateM.bind first next state)
  unfold EStateM.bind
  cases hrun : first state with
  | ok value after =>
      rw [hrun] at hkept
      exact hnext value hkept.2 after hkept.1
  | error e after =>
      rw [hrun] at hkept
      exact hkept

theorem check {check : Except ε α} {next : α → EStateM ε σ β} {last : β → Prop}
    (hnext : ∀ value, check = .ok value → Keeps inv last (next value)) :
    Keeps inv last (liftM check >>= next) :=
  fun state hstate => Ends.check hstate fun value hvalue => hnext value hvalue state hstate

theorem getCheck {check : σ → Except ε α} {next : α → EStateM ε σ β} {last : β → Prop}
    (hnext : ∀ state, inv state → ∀ value, check state = .ok value →
      Ends inv last (next value state)) :
    Keeps inv last (MonadState.get >>= fun state => liftM (check state) >>= next) :=
  fun state hstate => Ends.check hstate (hnext state hstate)

theorem adaptExcept {δ : Type} (f : δ → ε) {run : EStateM δ σ α} (hrun : Keeps inv post run) :
    Keeps inv post (EStateM.adaptExcept f run) := by
  intro state hstate
  have hkept := hrun state hstate
  unfold EStateM.adaptExcept
  cases hends : run state <;> rw [hends] at hkept <;> exact hkept

end Keeps

/-- The state of a component has a property, and the texts on the heap are not too long. -/
def Sized (p : σ → Prop) (receiver : Receiver σ) : Prop :=
  p receiver.state ∧ receiver.heap.All Component.Fits

variable {p : σ → Prop}

theorem keeps_own : Keeps (Sized p) p (own : EStateM ε (Receiver σ) σ) :=
  fun _ hreceiver => ⟨hreceiver, hreceiver.1⟩

theorem keeps_heap : Keeps (Sized p) (Heap.All Component.Fits) (heap : EStateM ε (Receiver σ) _) :=
  fun _ hreceiver => ⟨hreceiver, hreceiver.2⟩

theorem keeps_modifyOwn {change : σ → σ} (hchange : ∀ state, p state → p (change state)) :
    Keeps (Sized p) (fun _ => True) (modifyOwn change : EStateM ε (Receiver σ) Unit) :=
  fun receiver hreceiver => ⟨⟨hchange receiver.state hreceiver.1, hreceiver.2⟩, trivial⟩

theorem keeps_carryOut {change : σ → Heap → Effect σ} {post : Value → Prop}
    (hchange : ∀ state heap, p state → heap.All Component.Fits →
      p (change state heap).state ∧ (change state heap).heap.All Component.Fits ∧
        post (change state heap).value) :
    Keeps (Sized p) post (carryOut change : EStateM ε (Receiver σ) Value) := by
  intro receiver hreceiver
  obtain ⟨hstate, hheap, hvalue⟩ := hchange receiver.state receiver.heap hreceiver.1 hreceiver.2
  exact ⟨⟨hstate, hheap⟩, hvalue⟩

theorem keeps_alloc {component : Component} (hcomponent : component.Fits) :
    Keeps (Sized p) (fun _ => True) (alloc component : EStateM ε (Receiver σ) Handle) :=
  fun _ hreceiver => ⟨⟨hreceiver.1, hreceiver.2.alloc hcomponent⟩, trivial⟩

theorem keeps_make {component : Component} {post : Value → Prop} (hcomponent : component.Fits)
    (hpost : ∀ handle, post (.object handle)) :
    Keeps (Sized p) post (make component : EStateM ε (Receiver σ) Value) :=
  keeps_carryOut fun _ _ hstate hheap => ⟨hstate, hheap.alloc hcomponent, hpost _⟩

theorem keeps_warn (warnings : List String) :
    Keeps (Sized p) (fun _ => True) (warn warnings : EStateM ε (Receiver σ) Unit) :=
  fun _ hreceiver => ⟨hreceiver, trivial⟩

end Procedure

/-- The methods that build a text of whatever length. -/
def uncheckedMethods : List String := ["replace", "replaceall", "lcase", "ucase", "join", "genxml"]

namespace Call

/-- None of the texts among the arguments is too long. -/
def Fits (call : Call) : Prop := ∀ value ∈ call.arguments, value.Fits

/-- The value is no text that is too long, unless the method does not ask how long it is. -/
def Gives (call : Call) (value : Value) : Prop := call.method ∉ uncheckedMethods → value.Fits

variable {call : Call}

theorem Fits.value (hcall : call.Fits) {position : Nat} {value : Value}
    (hvalue : call.value position = .ok value) : value.Fits :=
  hcall value (List.mem_of_getElem? (value_eq_ok_iff.mp hvalue))

theorem Fits.text (hcall : call.Fits) {position : Nat} {text : String}
    (htext : call.text position = .ok text) : Text.Fits text :=
  hcall (.text text) (List.mem_of_getElem? (text_eq_ok_iff.mp htext))

theorem gives_of_unchecked (hmethod : call.method ∈ uncheckedMethods) (value : Value) :
    call.Gives value :=
  fun hchecked => absurd hmethod hchecked

theorem ensureTextBytes_eq_ok_iff {count : Nat} {checked : Unit} :
    call.ensureTextBytes count = .ok checked ↔ count ≤ maxTextBytes := by
  unfold ensureTextBytes
  split
  · next hmore => exact iff_of_false nofun (Nat.not_le_of_gt hmore)
  · next hleast => exact iff_of_true rfl (Nat.le_of_not_gt hleast)

end Call

end BrightScript
