import BrightScript.Evaluator.Basic
import BrightScript.Proofs.Respelling.Syntax

/-!
Machines in the same state but for the spelling of names, and the operations on machines that keep
them so.
-/

namespace BrightScript

namespace Dictionary

variable {key : String → String} {α : Type} {name other : String}

theorem get?_congr (map : Dictionary key α) (hsame : key name = key other) :
    map.get? name = map.get? other := by
  rw [get?, get?, hsame]

/-- The map with its names respelled. -/
def respell (spelling : Respelling) (map : NameMap α) : NameMap α :=
  ⟨map.entries.map fun entry => (spelling entry.1, entry.2)⟩

variable (spelling : Respelling)

theorem put_respell (name : String) (value : α) (entries : List (String × α)) :
    (put Name.key name value entries).map (fun entry => (spelling entry.1, entry.2)) =
      put Name.key (spelling name) value
        (entries.map fun entry => (spelling entry.1, entry.2)) := by
  induction entries with
  | nil => rfl
  | cons entry rest ih =>
      simp only [put, List.map_cons, spelling.key_apply]
      split
      · rfl
      · rw [List.map_cons, ih]

theorem respell_insert (map : NameMap α) (name : String) (value : α) :
    (map.insert name value).respell spelling =
      (map.respell spelling).insert (spelling name) value :=
  congrArg Dictionary.mk (put_respell spelling name value map.entries)

theorem respell_insertMany (map : NameMap α) (entries : List (String × α)) :
    (map.insertMany entries).respell spelling =
      (map.respell spelling).insertMany (entries.map fun entry => (spelling entry.1, entry.2)) := by
  induction entries generalizing map with
  | nil => rfl
  | cons entry rest ih =>
      have hrest := ih (map.insert entry.1 entry.2)
      rw [respell_insert] at hrest
      exact hrest

theorem respell_ofList (entries : List (String × α)) :
    (ofList entries : NameMap α).respell spelling =
      ofList (entries.map fun entry => (spelling entry.1, entry.2)) :=
  respell_insertMany spelling empty entries

theorem get?_respell (map : NameMap α) (name : String) :
    (map.respell spelling).get? name = map.get? name := by
  simp only [get?, respell, List.find?_map, Option.map_map, Function.comp_def, spelling.key_apply]

theorem values_respell (map : NameMap α) : (map.respell spelling).values = map.values := by
  rw [values, values, respell, List.map_map]
  rfl

end Dictionary

/-- What is kept throughout when two runs are compared: how names are spelled in the second one, the
functions that are never replaced, and the results that each of them has already. -/
structure Pairing where
  spelling : Respelling
  pinned : List Function := []
  results : List Value := []
  others : List Value := []

namespace Machine

/-- The other machine is in the same state but for the spelling of names. Functions are pinned: they
are declared and no function of the program declares another of the same name. -/
structure Respelled (pairing : Pairing) (machine other : Machine) : Prop where
  context : other.context = machine.context
  scope : other.scope = machine.scope
  functions : ∀ name, other.functions.get? name =
    (machine.functions.get? name).map (Function.respell pairing.spelling)
  frames : other.frames = machine.frames.map (Dictionary.respell pairing.spelling)
  temporaries : other.temporaries = machine.temporaries
  results : machine.results = pairing.results
  others : other.results = pairing.others
  handles : Value.handles pairing.others = Value.handles pairing.results
  pinned : ∀ function ∈ pairing.pinned, machine.functions.get? function.name = some function
  spared : ∀ {name : String} {function : Function}, machine.functions.get? name = some function →
    Spares pairing.pinned (Statement.blockNames function.body)

namespace Respelled

variable {pairing : Pairing} {machine other : Machine}

theorem get?_functions (hmachine : machine.Respelled pairing other) (name : String) :
    other.functions.get? (pairing.spelling name) =
      (machine.functions.get? name).map (Function.respell pairing.spelling) := by
  rw [other.functions.get?_congr (pairing.spelling.key_apply name), hmachine.functions]

theorem contains_functions (hmachine : machine.Respelled pairing other) (name : String) :
    other.functions.contains (pairing.spelling name) = machine.functions.contains name := by
  rw [Dictionary.contains_eq_isSome_get?, Dictionary.contains_eq_isSome_get?,
    hmachine.get?_functions, Option.isSome_map]

theorem valueOf?_eq (hmachine : machine.Respelled pairing other) (name : String) :
    other.valueOf? (pairing.spelling name) = machine.valueOf? name := by
  rw [valueOf?, valueOf?, hmachine.frames, List.head?_map]
  cases machine.frames.head? with
  | none => rfl
  | some frame =>
      change (frame.respell pairing.spelling).get? (pairing.spelling name) = frame.get? name
      rw [Dictionary.get?_respell, frame.get?_congr (pairing.spelling.key_apply name)]

theorem display_eq (hmachine : machine.Respelled pairing other) :
    other.display = machine.display := by
  funext value
  cases value with
  | object handle => simp only [display, hmachine.context]
  | _ => rfl

theorem roots_eq (hmachine : machine.Respelled pairing other) : other.roots = machine.roots := by
  simp only [roots, hmachine.scope, hmachine.frames, hmachine.temporaries, hmachine.context,
    hmachine.results, hmachine.others, hmachine.handles, List.flatMap_map,
    Dictionary.values_respell]

theorem withContext (hmachine : machine.Respelled pairing other) (context : RunContext) :
    Respelled pairing { machine with context := context } { other with context := context } :=
  { hmachine with context := rfl }

theorem collect (hmachine : machine.Respelled pairing other) (settings : Settings) :
    (machine.collect settings).Respelled pairing (other.collect settings) := by
  simp only [Machine.collect, hmachine.context]
  split
  · exact hmachine
  · split
    · simp only [sweep, hmachine.context, hmachine.roots_eq]
      exact hmachine.withContext _
    · exact hmachine

theorem withTemporaries (hmachine : machine.Respelled pairing other) (temporaries : List Value) :
    Respelled pairing { machine with temporaries := temporaries }
      { other with temporaries := temporaries } :=
  { hmachine with temporaries := rfl }

theorem withFrames (hmachine : machine.Respelled pairing other) (frames : List Frame) :
    Respelled pairing { machine with frames := frames }
      { other with frames := frames.map (Dictionary.respell pairing.spelling) } :=
  { hmachine with frames := rfl }

theorem assign (hmachine : machine.Respelled pairing other) (name : String) (value : Value) :
    (machine.assign name value).Respelled pairing
      (other.assign (pairing.spelling name) value) := by
  unfold Machine.assign
  rw [hmachine.frames]
  cases machine.frames with
  | nil =>
      have hframe := hmachine.withFrames [Dictionary.empty.insert name value]
      rw [List.map_singleton, Dictionary.respell_insert] at hframe
      exact hframe
  | cons frame frames =>
      have hframe := hmachine.withFrames (frame.insert name value :: frames)
      rw [List.map_cons, Dictionary.respell_insert] at hframe
      exact hframe

theorem declare (hmachine : machine.Respelled pairing other) {function : Function}
    (hname : Spares pairing.pinned [function.name])
    (hbody : Spares pairing.pinned (Statement.blockNames function.body)) :
    (machine.declare function).Respelled pairing
      (other.declare (function.respell pairing.spelling)) where
  context := hmachine.context
  scope := hmachine.scope
  functions := by
    intro name
    simp only [Machine.declare, Dictionary.get?_insert, Function.respell,
      pairing.spelling.key_apply]
    split
    · rfl
    · exact hmachine.functions name
  frames := hmachine.frames
  temporaries := hmachine.temporaries
  results := hmachine.results
  others := hmachine.others
  handles := hmachine.handles
  pinned := by
    intro pinned hpinned
    have hother := hname function.name (List.mem_singleton_self _) pinned hpinned
    simp only [Machine.declare, Dictionary.get?_insert, if_neg (Ne.symm hother)]
    exact hmachine.pinned pinned hpinned
  spared := by
    intro name found hfound
    simp only [Machine.declare, Dictionary.get?_insert] at hfound
    split at hfound
    · cases hfound
      exact hbody
    · exact hmachine.spared hfound

/-- A pinned function is declared again, on one side only. -/
theorem declareAgain (hmachine : machine.Respelled pairing other) {function : Function}
    (hpinned : function ∈ pairing.pinned) :
    (machine.declare function).Respelled pairing other := by
  have hfunctions : ∀ name, (machine.declare function).functions.get? name =
      machine.functions.get? name := by
    intro name
    simp only [Machine.declare, Dictionary.get?_insert]
    split
    case isTrue hname => rw [machine.functions.get?_congr hname, hmachine.pinned function hpinned]
    case isFalse => rfl
  exact { hmachine with
    functions := fun name => (hfunctions name).symm ▸ hmachine.functions name
    pinned := fun pinned hmem => (hfunctions _).trans (hmachine.pinned pinned hmem)
    spared := fun hfound => hmachine.spared ((hfunctions _).symm.trans hfound) }

end Respelled

end Machine

end BrightScript
