import BrightScript.Method.Call

/-!
How methods run. A method changes its component and the heap in place: what it has done by the time
it fails stays done.
-/

namespace BrightScript

/-- A computation of a method on a state of type `σ`. -/
abbrev Procedure (σ : Type) := EStateM MethodError σ

/-- What a method works on: the state of its component, which is out of the heap, the heap, and the
warnings so far. -/
structure Receiver (σ : Type) where
  state : σ
  heap : Heap
  warnings : List String := []

namespace Receiver

/-- The receiver with another form of the component's state. -/
def map {σ τ : Type} (f : σ → τ) (receiver : Receiver σ) : Receiver τ :=
  ⟨f receiver.state, receiver.heap, receiver.warnings⟩

/-- What a call leaves behind that ends with a value. -/
def effect {σ : Type} (receiver : Receiver σ) (value : Value) : Effect σ :=
  ⟨receiver.state, receiver.heap, value, receiver.warnings⟩

variable {σ : Type} (receiver : Receiver σ) (value : Value)

@[simp, grind =] theorem state_effect : (receiver.effect value).state = receiver.state := rfl

@[simp, grind =] theorem heap_effect : (receiver.effect value).heap = receiver.heap := rfl

end Receiver

namespace Procedure

variable {ε σ τ α β γ : Type}

/-- An argument check, which reads and changes nothing. -/
instance : MonadLift (Except ε) (EStateM ε σ) where
  monadLift
    | .ok value => pure value
    | .error e => throw e

def own : EStateM ε (Receiver σ) σ := return (← get).state

/-- The heap without the component. -/
def heap : EStateM ε (Receiver σ) Heap := return (← get).heap

def modifyOwn (change : σ → σ) : EStateM ε (Receiver σ) Unit :=
  modify fun receiver => { receiver with state := change receiver.state }

/-- Carries out a change of the component and the heap that cannot fail. -/
def carryOut (change : σ → Heap → Effect σ) : EStateM ε (Receiver σ) Value :=
  modifyGet fun ⟨state, heap, warnings⟩ =>
    let effect := change state heap
    (effect.value, ⟨effect.state, effect.heap, warnings ++ effect.warnings⟩)

/-- Makes a component and gives its handle. -/
def alloc (component : Component) : EStateM ε (Receiver σ) Handle :=
  modifyGet fun ⟨state, heap, warnings⟩ =>
    let (handle, heap) := heap.alloc component
    (handle, ⟨state, heap, warnings⟩)

/-- Makes a component, which is the value of the method. -/
def make (component : Component) : EStateM ε (Receiver σ) Value :=
  carryOut fun state heap => .made state heap component

def warn (warnings : List String) : EStateM ε (Receiver σ) Unit :=
  modify fun receiver => { receiver with warnings := receiver.warnings ++ warnings }

/-- The result of a computation with another form of the state that it leaves. -/
def leaving (f : σ → τ) : EStateM.Result ε σ α → EStateM.Result ε τ α
  | .ok value state => .ok value (f state)
  | .error e state => .error e (f state)

/-- What a computation comes to if it succeeds. -/
def outcome (finish : σ → α → β) (run : EStateM ε σ α) (state : σ) : Except ε β :=
  match run state with
  | .ok value state => .ok (finish state value)
  | .error e _ => .error e

section Outcome

variable {finish : σ → β → γ}

@[simp, grind =] theorem outcome_pure (value : β) (state : σ) :
    outcome finish (pure value : EStateM ε σ β) state = .ok (finish state value) := rfl

@[simp, grind =] theorem outcome_throw (e : ε) (state : σ) :
    outcome finish (throw e) state = .error e := rfl

@[simp, grind =] theorem outcome_check (check : Except ε α) (rest : α → EStateM ε σ β) (state : σ) :
    outcome finish (liftM check >>= rest) state = check >>= fun value =>
      outcome finish (rest value) state := by
  cases check <;> rfl

@[simp, grind =] theorem outcome_get (rest : σ → EStateM ε σ β) (state : σ) :
    outcome finish (get >>= rest) state = outcome finish (rest state) state := rfl

@[simp, grind =] theorem outcome_set (new : σ) (rest : PUnit → EStateM ε σ β) (state : σ) :
    outcome finish (set new >>= rest) state = outcome finish (rest ⟨⟩) new := rfl

@[simp, grind =] theorem outcome_modify (change : σ → σ) (rest : PUnit → EStateM ε σ β)
    (state : σ) :
    outcome finish (modify change >>= rest) state = outcome finish (rest ⟨⟩) (change state) := rfl

@[simp, grind =] theorem outcome_modifyGet (change : σ → β × σ) (state : σ) :
    outcome finish (modifyGet change : EStateM ε σ β) state =
      .ok (finish (change state).2 (change state).1) := rfl

@[simp] theorem outcome_ite (c : Prop) [Decidable c] (run other : EStateM ε σ β)
    (state : σ) : outcome finish (if c then run else other) state =
      if c then outcome finish run state else outcome finish other state := by
  split <;> rfl

@[simp, grind =] theorem outcome_adaptExcept {δ : Type} (f : δ → ε) (run : EStateM δ σ β)
    (state : σ) : outcome finish (EStateM.adaptExcept f run) state =
      (outcome finish run state).mapError f := by
  unfold outcome EStateM.adaptExcept
  cases run state <;> rfl

end Outcome

section Effect

variable {finish : Receiver σ → β → γ}

@[simp, grind =] theorem outcome_own (rest : σ → EStateM ε (Receiver σ) β)
    (receiver : Receiver σ) :
    outcome finish (own >>= rest) receiver = outcome finish (rest receiver.state) receiver := rfl

@[simp, grind =] theorem outcome_heap (rest : Heap → EStateM ε (Receiver σ) β)
    (receiver : Receiver σ) :
    outcome finish (heap >>= rest) receiver = outcome finish (rest receiver.heap) receiver := rfl

@[simp, grind =] theorem outcome_modifyOwn (change : σ → σ)
    (rest : Unit → EStateM ε (Receiver σ) β) (receiver : Receiver σ) :
    outcome finish (modifyOwn change >>= rest) receiver =
      outcome finish (rest ()) ⟨change receiver.state, receiver.heap, receiver.warnings⟩ := rfl

@[simp, grind =] theorem outcome_carryOut (change : σ → Heap → Effect σ) (state : σ) (heap : Heap) :
    outcome Receiver.effect (carryOut change : EStateM ε (Receiver σ) Value) ⟨state, heap, []⟩ =
      .ok (change state heap) := rfl

@[simp, grind =] theorem outcome_make (component : Component) (state : σ) (heap : Heap) :
    outcome Receiver.effect (make component : EStateM ε (Receiver σ) Value) ⟨state, heap, []⟩ =
      .ok (.made state heap component) := rfl

theorem outcome_replaceValue (run : EStateM ε (Receiver σ) Value) (value : Value)
    (receiver : Receiver σ) :
    outcome Receiver.effect (run >>= fun _ => pure value) receiver =
      (fun effect => { effect with value := value }) <$> outcome Receiver.effect run receiver := by
  simp only [outcome, bind, EStateM.bind]
  cases run receiver <;> rfl

end Effect

end Procedure

end BrightScript
