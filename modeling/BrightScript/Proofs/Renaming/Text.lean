import BrightScript.Method.Text
import BrightScript.Proofs.Renaming.Collection

namespace BrightScript

theorem samePair_plain {α : Type} {wrap : α → Component} {π : Equiv.Perm Handle} {heap : Heap}
    {state : α} {value : Value} (hstate : wrap state = (wrap state).rename π)
    (hcovers : heap.Covers (wrap state).references) (hvalue : value.object? = none) :
    SamePair wrap π heap (state, value) (state, value) where
  state_eq := hstate
  covers := hcovers
  value_eq := (Value.rename_eq_self hvalue).symm
  holds := by
    intro handle hhandle
    rw [hvalue] at hhandle
    cases hhandle

open Procedure

namespace TextMethod

variable {π : Equiv.Perm Handle} {value : String} {call : Call}

theorem agrees_call (heap : Heap) :
    Agrees MethodError.Ordinary (SamePair .text π heap) (TextMethod.call value call)
    (TextMethod.call value (call.rename π)) := by
  have hplain : ∀ {state : String} {value : Value}, value.object? = none →
      SamePair .text π heap (state, value) (state, value) := fun hvalue =>
    samePair_plain rfl Heap.covers_nil hvalue
  unfold TextMethod.call perform
  rw [Call.method_rename]
  split <;> simp only [outcome_check, outcome_get, outcome_modify, outcome_ite,
    bind_map_left, pure_bind, outcome_throw]
  · exact .expect (.ok (hplain rfl))
  · exact .expect (.ok (hplain rfl))
  · exact .expect (.text fun text => .ok (hplain rfl))
  · refine .expectBetween (.text fun added => .ensureTextBytes ?_)
    rw [Call.arguments_rename, List.length_map]
    split
    · exact .length fun length => .ok (hplain rfl)
    · exact .ok (hplain rfl)
  · exact .expect (.ok (hplain rfl))
  · exact .expect (.length fun length => .ok (hplain rfl))
  · exact .expect (.length fun length => .ok (hplain rfl))
  · refine .expectBetween ?_
    rw [Call.arguments_rename, List.length_map]
    split
    · exact .length fun limit => .length fun start => .ok (hplain rfl)
    · exact .length fun start => .ok (hplain rfl)
  · exact .expect (.text fun needle => .ok (hplain rfl))
  · refine .expect (.text fun needle => ?_)
    split
    · exact .ok (hplain rfl)
    · exact .text fun replacement => .ok (hplain rfl)
  · exact .expect (.ok (hplain rfl))
  · exact .expect (.ok (hplain rfl))
  · exact .expect (.ok (hplain rfl))
  · exact .expect (.text fun start => .ok (hplain rfl))
  · exact .expect (.text fun ending => .ok (hplain rfl))
  · exact .expect (.ok (hplain rfl))
  · exact .expect (.ok (hplain rfl))
  · exact .unknown

end TextMethod

namespace TimespanMethod

variable {π : Equiv.Perm Handle} {clock start : Nat} {call : Call}

theorem agrees_call (heap : Heap) : Agrees MethodError.Ordinary (SamePair .timespan π heap)
    (TimespanMethod.call clock start call) (TimespanMethod.call clock start (call.rename π)) := by
  unfold TimespanMethod.call perform
  rw [Call.method_rename]
  split <;> simp only [outcome_check, outcome_throw]
  · exact .expect (.ok (samePair_plain rfl Heap.covers_nil rfl))
  · exact .expect (.ok (samePair_plain rfl Heap.covers_nil rfl))
  · exact .expect (.ok (samePair_plain rfl Heap.covers_nil rfl))
  · exact .unknown

end TimespanMethod

namespace RegexMethod

variable {π : Equiv.Perm Handle} {heap mirror : Heap} {regex : Regex} {call : Call}

theorem rename_textArray (f : Handle → Handle) (texts : List String) :
    (textArray texts).rename f = textArray texts := by
  simp [textArray, Component.rename, Function.comp_def]

theorem covers_textArray (heap : Heap) (texts : List String) :
    heap.Covers (textArray texts).references := by
  simp [textArray]

theorem textArrays_eq_allocAll (heap : Heap) (texts : List (List String)) :
    textArrays heap texts = heap.allocAll (texts.map textArray) := by
  induction texts generalizing heap with
  | nil => rfl
  | cons first texts ih => simp only [textArrays, List.map_cons, Heap.allocAll, ih]

theorem agrees_call (hheap : heap.Mirrors π mirror) :
    Agrees MethodError.Ordinary (Effect.MirrorsAfter .regex π heap)
      (RegexMethod.call heap regex call)
      (RegexMethod.call mirror regex (call.rename π)) := by
  have hstate : Component.regex regex = (Component.regex regex).rename π := rfl
  have hkept : heap.Covers (Component.regex regex).references := Heap.covers_nil
  have htexts : ∀ texts, Effect.MirrorsAfter .regex π heap (.made regex heap (textArray texts))
      (.made regex mirror (textArray texts)) := fun texts =>
    .made hheap hstate hkept (rename_textArray π texts).symm (covers_textArray heap texts)
  unfold RegexMethod.call perform
  rw [Call.method_rename]
  split <;> simp only [outcome_check, outcome_throw]
  · exact .expect (.text fun text => .ok (.quiet hheap hstate hkept rfl Heap.holds_boolean))
  · exact .expect (.text fun text => .ok (htexts _))
  · simp only [textArrays_eq_allocAll]
    refine .expect (.text fun text => .ok (.madeAll hheap hstate hkept ?_ ?_))
    · rw [List.map_map]
      exact List.map_congr_left fun texts _ => (rename_textArray π texts).symm
    · intro component hcomponent
      obtain ⟨texts, -, rfl⟩ := List.mem_map.mp hcomponent
      exact covers_textArray heap texts
  · exact .expect (.text fun text => .text fun replacement =>
      .ok (.quiet hheap hstate hkept rfl Heap.holds_text))
  · exact .expect (.text fun text => .text fun replacement =>
      .ok (.quiet hheap hstate hkept rfl Heap.holds_text))
  · exact .expect (.text fun text => .ok (htexts _))
  · exact .unknown

end RegexMethod

end BrightScript
