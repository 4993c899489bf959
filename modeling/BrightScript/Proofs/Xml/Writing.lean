import Mathlib
import BrightScript.Method.Xml
import BrightScript.Proofs.Attempt

namespace BrightScript.Xml

/-- Writes a child of the innermost element of `around`, where `inner` writes the child's own
element. -/
def writeChildAt (heap : Heap) (inner : List Handle → XmlElement → Except WriteError String)
    (around : List Handle) (child : Handle) : Except WriteError String :=
  if around.contains child then .error .containsItself
  else match heap.get? child with
    | some (.element element) => inner (child :: around) element
    | _ => .ok ""

/-- Writes an element with at most `depth` levels, where `around` are the element and those that it
stands in. -/
def writeAt (heap : Heap) : Nat → List Handle → XmlElement → Except WriteError String
  | 0, _, _ => .error .tooDeep
  | depth + 1, around, element => do
    let start := "<" ++ element.name ++ attributes element
    match element.body with
    | .empty => .ok (start ++ "/>")
    | .text value => .ok (start ++ ">" ++ escape value ++ closing element)
    | .elements children =>
      let inner ← children.mapM (writeChildAt heap (writeAt heap depth) around)
      .ok (start ++ ">" ++ String.join inner ++ closing element)

section Walk

variable {α β ε σ : Type} {walk : α → StateT σ (Except ε) β} {state : σ}

theorem mapM_eq_of_eq {result : α → Except ε β} {items : List α}
    (hwalk : ∀ item ∈ items, walk item state = (·, state) <$> result item) :
    items.mapM walk state = (·, state) <$> items.mapM result := by
  induction items with
  | nil => rfl
  | cons item rest ih =>
      have hitem := hwalk item List.mem_cons_self
      have hrest := ih fun other hother => hwalk other (List.mem_cons_of_mem item hother)
      rw [List.mapM_cons, List.mapM_cons, bind_eq_of_eq hitem]
      cases result item with
      | error e => rfl
      | ok value =>
          show (rest.mapM walk >>= fun others => pure (value :: others)) state = _
          rw [bind_eq_of_eq hrest]
          cases rest.mapM result <;> rfl

end Walk

variable {heap : Heap} {limit : Nat}

theorem leave_enter (opened : Opened (limit + 1)) (child : Handle) :
    (opened.enter child).leave child = opened :=
  Subtype.ext (List.erase_cons_head ..)

theorem writeChild_eq {opened : Opened (limit + 1)} {child : Handle}
    (hwrite : ∀ element, write heap limit element (opened.enter child) =
      (·, opened.enter child) <$> writeAt heap limit (child :: opened.1) element) :
    writeChild heap (write heap limit) child opened =
      (·, opened) <$> writeChildAt heap (writeAt heap limit) opened.1 child := by
  unfold writeChild writeChildAt
  split
  · rfl
  · cases heap.get? child with
    | none => rfl
    | some component =>
        cases component with
        | element element =>
            simp only [hwrite]
            cases writeAt heap limit (child :: opened.1) element with
            | error e => rfl
            | ok written =>
                exact congrArg (fun left => Except.ok (written, left)) (leave_enter opened child)
        | _ => rfl

theorem write_of_room {opened : Opened (limit + 1)} (hroom : opened.1.length ≤ maxDepth)
    (element : XmlElement) : write heap (limit + 1) element opened =
      (match element.body with
      | .empty => pure ("<" ++ element.name ++ attributes element ++ "/>")
      | .text value =>
        pure ("<" ++ element.name ++ attributes element ++ ">" ++ escape value ++ closing element)
      | .elements children => do
        let inner ← children.mapM (writeChild heap (write heap limit))
        return "<" ++ element.name ++ attributes element ++ ">" ++ String.join inner ++
          closing element : StateT (Opened (limit + 1)) (Except WriteError) String) opened := by
  show (if maxDepth < opened.1.length then throw .tooDeep else _ :
    StateT (Opened (limit + 1)) (Except WriteError) String) opened = _
  exact congrFun (if_neg (Nat.not_lt.mpr hroom)) opened

/-- Where as many levels are left as there is room for, an element is written as below the elements
that are being written, and these are the same in the end. -/
theorem write_eq (heap : Heap) (limit : Nat) (element : XmlElement) (opened : Opened limit)
    (hroom : opened.1.length + limit = maxDepth + 1) :
    write heap limit element opened = (·, opened) <$> writeAt heap limit opened.1 element := by
  -- one element more is being written at each level
  induction limit generalizing element with
  | zero => rfl
  | succ limit ih =>
      have hchild : ∀ child, writeChild heap (write heap limit) child opened =
          (·, opened) <$> writeChildAt heap (writeAt heap limit) opened.1 child := by
        intro child
        apply writeChild_eq
        intro inner
        apply ih inner (opened.enter child)
        show opened.1.length + 1 + limit = maxDepth + 1
        omega
      rw [write_of_room (by omega), writeAt]
      cases element.body with
      | empty => rfl
      | text value => rfl
      | elements children =>
          dsimp only
          rw [bind_eq_of_eq (mapM_eq_of_eq fun child _ => hchild child)]
          cases children.mapM (writeChildAt heap (writeAt heap limit) opened.1) <;> rfl

theorem document_eq (heap : Heap) (this : Handle) (element : XmlElement) :
    document heap this element = writeAt heap maxDepth [this] element := by
  have hwrite : write heap maxDepth element (.only this) =
      (·, .only this) <$> writeAt heap maxDepth [this] element :=
    write_eq heap maxDepth element (.only this) (Nat.add_comm 1 maxDepth)
  unfold document StateT.run'
  rw [hwrite]
  cases writeAt heap maxDepth [this] element <;> rfl

end BrightScript.Xml
