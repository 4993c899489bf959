import BrightScript.Heap.Basic

namespace BrightScript.Heap

/-- The components that are being shown, where at most `limit` others can still be met. -/
abbrev Visiting (heap : Heap) (limit : Nat) : Type :=
  { handles : List Handle // heap.unvisited handles ≤ limit }

namespace Visiting

variable {heap : Heap} {limit : Nat} {handle : Handle} {component : Component}

/-- No component is being shown. -/
def none (heap : Heap) : heap.Visiting (heap.unvisited []) := ⟨[], Nat.le_refl _⟩

theorem limit_ne_zero (visiting : heap.Visiting limit) (found : heap.get? handle = some component)
    (fresh : visiting.1.contains handle = false) : limit ≠ 0 :=
  Nat.ne_zero_of_lt (Nat.lt_of_lt_of_le (unvisited_cons_lt found fresh) visiting.2)

/-- Begins to show a component. -/
def enter (visiting : heap.Visiting (limit + 1)) (found : heap.get? handle = some component)
    (fresh : visiting.1.contains handle = false) : heap.Visiting limit :=
  ⟨handle :: visiting.1,
    Nat.le_of_lt_succ (Nat.lt_of_lt_of_le (unvisited_cons_lt found fresh) visiting.2)⟩

/-- Ends showing a component. -/
def leave (visiting : heap.Visiting limit) (handle : Handle) : heap.Visiting (limit + 1) :=
  ⟨visiting.1.erase handle,
    Nat.le_trans (heap.unvisited_erase_le visiting.1 handle) (Nat.succ_le_succ visiting.2)⟩

end Visiting

/-- Shows a value, where `expand` shows a component that is not being shown yet. -/
def documentWith (heap : Heap) {limit : Nat}
    (expand : ∀ {handle : Handle} {component : Component} (visiting : heap.Visiting limit),
      heap.get? handle = some component → visiting.1.contains handle = false →
        Json × heap.Visiting limit) : Value → StateM (heap.Visiting limit) Json
  | .invalid => return .null
  | .boolean value => return .bool value
  | .integer value => return .integer value.toInt
  | .float value => return .ofFloat value
  | .text value => return .text value
  | .object handle => fun visiting =>
    match found : heap.get? handle with
    | none => (.text "<released component>", visiting)
    | some _ =>
      if fresh : visiting.1.contains handle = false then expand visiting found fresh
      else (.text "<cycle>", visiting)

/-- Shows a value. The components that are being shown are kept in one set for the whole walk. -/
def documentWithin (heap : Heap) : (limit : Nat) → Value → StateM (heap.Visiting limit) Json
  | 0 => heap.documentWith fun visiting found fresh =>
    absurd rfl (visiting.limit_ne_zero found fresh)
  | limit + 1 => heap.documentWith fun {handle component} visiting found fresh =>
    let (document, within) :=
      component.documentM heap.clock (heap.documentWithin limit) (visiting.enter found fresh)
    (document, within.leave handle)

def snapshot (heap : Heap) (value : Value) : Json :=
  (heap.documentWithin _ value (.none heap)).1

end BrightScript.Heap
