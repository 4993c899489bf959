import BrightScript.Proofs.Respelling.Program

namespace BrightScript

/-- Whether a statement declares a function. -/
def Statement.isDeclaration (statement : Statement) : Bool := statement.function?.isSome

/-- The functions that are declared among some statements. -/
def declarations (statements : List Statement) : List Function :=
  statements.filterMap Statement.function?

/-- The functions that are declared among the statements have names of their own: no two of them
have the same one, and no function that is declared inside of a function or under a condition has
one of theirs. -/
structure OwnNames (statements : List Statement) : Prop where
  distinct : ((declarations statements).map fun function => Name.key function.name).Nodup
  spared : ∀ statement ∈ statements, Spares (declarations statements) statement.innerNames

/-- Programs that differ in the places of the declarations only. -/
structure Rearranged (statements statements' : List Statement) : Prop where
  declared : (statements'.filter Statement.isDeclaration).Perm
    (statements.filter Statement.isDeclaration)
  others : statements'.filter (!Statement.isDeclaration ·) =
    statements.filter (!Statement.isDeclaration ·)

namespace Dictionary

variable {key : String → String} {α : Type} {map : Dictionary key α} {name : String}
  {entries : List (String × α)}

theorem get?_insertMany_of_ne (hne : ∀ entry ∈ entries, key name ≠ key entry.1) :
    (map.insertMany entries).get? name = map.get? name := by
  induction entries generalizing map with
  | nil => rfl
  | cons entry rest ih =>
      obtain ⟨hentry, hrest⟩ := List.forall_mem_cons.mp hne
      refine (ih hrest).trans ?_
      rw [get?_insert, if_neg hentry]

theorem get?_insertMany_of_mem (hdistinct : (entries.map fun entry => key entry.1).Nodup)
    {entry : String × α} (hentry : entry ∈ entries) (hname : key name = key entry.1) :
    (map.insertMany entries).get? name = some entry.2 := by
  induction entries generalizing map with
  | nil => cases hentry
  | cons first rest ih =>
      rw [List.map_cons, List.nodup_cons] at hdistinct
      obtain ⟨hnew, hdistinct⟩ := hdistinct
      rcases List.mem_cons.mp hentry with rfl | hrest
      · have hothers : ∀ other ∈ rest, key name ≠ key other.1 := fun other hother hsame =>
          hnew (List.mem_map.mpr ⟨other, hother, hsame.symm.trans hname⟩)
        exact (get?_insertMany_of_ne hothers).trans
          ((get?_insert map _ name entry.2).trans (if_pos hname))
      · exact ih hdistinct hrest

theorem mem_of_get?_insertMany {value : α}
    (hfound : (map.insertMany entries).get? name = some value) :
    (∃ entry ∈ entries, key name = key entry.1 ∧ entry.2 = value) ∨ map.get? name = some value := by
  induction entries generalizing map with
  | nil => exact .inr hfound
  | cons first rest ih =>
      rcases ih hfound with ⟨entry, hentry, hsame⟩ | hfirst
      · exact .inl ⟨entry, List.mem_cons_of_mem first hentry, hsame⟩
      · rw [get?_insert] at hfirst
        split at hfirst
        case isTrue hname =>
            exact .inl ⟨first, List.mem_cons_self, hname, Option.some.inj hfirst⟩
        case isFalse => exact .inr hfirst

end Dictionary

theorem hoist_eq (machine : Machine) (statements : List Statement) :
    Evaluator.hoist machine statements = { machine with
      functions := machine.functions.insertMany
        ((declarations statements).map fun function => (function.name, function)) } := by
  induction statements generalizing machine with
  | nil => rfl
  | cons statement rest ih =>
      cases statement with
      | function span name parameters body isSub =>
          exact ih (machine.declare ⟨name, parameters, body⟩)
      | _ => exact ih machine

namespace OwnNames

variable {statements : List Statement}

theorem get?_hoist_iff (hnames : OwnNames statements) {machine : Machine}
    (hfunctions : machine.functions = .empty) (name : String) (function : Function) :
    (Evaluator.hoist machine statements).functions.get? name = some function ↔
      function ∈ declarations statements ∧ Name.key name = Name.key function.name := by
  rw [hoist_eq, hfunctions]
  constructor
  · intro hfound
    rcases Dictionary.mem_of_get?_insertMany hfound with ⟨entry, hentry, hname, rfl⟩ | hempty
    · obtain ⟨declared, hdeclared, rfl⟩ := List.mem_map.mp hentry
      exact ⟨hdeclared, hname⟩
    · cases hempty
  · rintro ⟨hdeclared, hname⟩
    have hdistinct := hnames.distinct
    refine Dictionary.get?_insertMany_of_mem ?_ (List.mem_map_of_mem hdeclared) hname
    rw [List.map_map]
    exact hdistinct

theorem spares_body (hnames : OwnNames statements) {function : Function}
    (hfunction : function ∈ declarations statements) :
    Spares (declarations statements) (Statement.blockNames function.body) := by
  obtain ⟨statement, hstatement, hdeclared⟩ := List.mem_filterMap.mp hfunction
  have hspared := hnames.spared statement hstatement
  cases statement with
  | function span name parameters body isSub =>
      obtain rfl := Option.some.inj hdeclared
      exact hspared
  | _ => cases hdeclared

theorem admissible (hnames : OwnNames statements) {settings : Settings}
    (hnever : settings.threshold = none) {statement : Statement}
    (hstatement : statement ∈ statements) :
    statement.Admissible settings (declarations statements) Statement.isDeclaration where
  kept := by
    intro hother
    have hspared := hnames.spared statement hstatement
    cases statement with
    | function => cases hother
    | _ => exact hspared
  dropped := by
    intro hdeclaration
    obtain ⟨function, hfunction⟩ := Option.isSome_iff_exists.mp hdeclaration
    exact ⟨function, List.mem_filterMap.mpr ⟨statement, hstatement, hfunction⟩, hfunction⟩
  never _ := hnever

end OwnNames

namespace Rearranged

variable {statements statements' : List Statement}

theorem mem_iff (hrearranged : Rearranged statements statements') {statement : Statement} :
    statement ∈ statements' ↔ statement ∈ statements := by
  have hdeclared := @List.Perm.mem_iff _ statement _ _ hrearranged.declared
  have hothers := congrArg (statement ∈ ·) hrearranged.others
  simp only [List.mem_filter, Bool.not_eq_true', eq_iff_iff] at hdeclared hothers
  cases hdeclaration : statement.isDeclaration with
  | true => simpa only [hdeclaration, and_true] using hdeclared
  | false => simpa only [hdeclaration, and_true] using hothers

theorem declarations_perm (hrearranged : Rearranged statements statements') :
    (declarations statements').Perm (declarations statements) := by
  have hfilter : ∀ list : List Statement,
      (list.filter Statement.isDeclaration).filterMap Statement.function? = declarations list := by
    intro list
    rw [List.filterMap_filter, declarations]
    refine congrArg (List.filterMap · list) (funext fun statement => ?_)
    cases hfunction : statement.function? <;> simp [Statement.isDeclaration, hfunction]
  rw [← hfilter statements, ← hfilter statements']
  exact hrearranged.declared.filterMap _

theorem ownNames (hrearranged : Rearranged statements statements') (hnames : OwnNames statements) :
    OwnNames statements' where
  distinct := (hrearranged.declarations_perm.map _).nodup_iff.mpr hnames.distinct
  spared := by
    intro statement hstatement name hname function hfunction
    exact hnames.spared statement (hrearranged.mem_iff.mp hstatement) name hname function
      (hrearranged.declarations_perm.mem_iff.mp hfunction)

theorem get?_hoist (hrearranged : Rearranged statements statements')
    (hnames : OwnNames statements) {machine : Machine} (hfunctions : machine.functions = .empty)
    (name : String) : (Evaluator.hoist machine statements').functions.get? name =
      (Evaluator.hoist machine statements).functions.get? name := by
  refine Option.ext fun function => ?_
  rw [hnames.get?_hoist_iff hfunctions, (hrearranged.ownNames hnames).get?_hoist_iff hfunctions,
    hrearranged.declarations_perm.mem_iff]

end Rearranged

namespace Launch

/-- Outcomes with the same fault, or with documents that are the same but for those of the
declarations. -/
inductive SameBesidesDeclarations (statements statements' : List Statement) :
    Except Fault (List Json) → Except Fault (List Json) → Prop
  | ok {documents documents' : List Json}
      (hdocuments : keptEntries Statement.isDeclaration statements documents =
        keptEntries Statement.isDeclaration statements' documents') :
      SameBesidesDeclarations statements statements' (.ok documents) (.ok documents')
  | error (fault : Fault) :
      SameBesidesDeclarations statements statements' (.error fault) (.error fault)

/-- What is kept if the declarations among the statements are left out. -/
def pinning (statements : List Statement) : Pairing where
  spelling := .keep
  pinned := declarations statements

/-- The machine of a run that begins, where functions are known already. -/
def preparedMachine (source : String) (context : RunContext) (functions : NameMap Function) :
    Machine :=
  { firstMachine source context with functions := functions }

variable {statements statements' : List Statement} {source : String} {context : RunContext}
  {functions : NameMap Function}

theorem respelled_preparedMachine (hnames : OwnNames statements)
    (hfunctions : ∀ name, functions.get? name =
      ((Evaluator.hoist (firstMachine source context) statements).functions.get? name).map
        (Function.respell .keep)) :
    (Evaluator.hoist (firstMachine source context) statements).Respelled (pinning statements)
      (preparedMachine source context functions) := by
  have hstart : (firstMachine source context).functions = .empty := rfl
  have hknown := hnames.get?_hoist_iff hstart
  rw [hoist_eq] at hknown hfunctions ⊢
  exact {
    context := rfl
    scope := rfl
    functions := hfunctions
    frames := rfl
    temporaries := rfl
    results := rfl
    others := rfl
    handles := rfl
    pinned := fun function hfunction => (hknown _ function).mpr ⟨hfunction, rfl⟩
    spared := fun hfound => hnames.spares_body ((hknown _ _).mp hfound).1 }

theorem accords_others (hnames : OwnNames statements)
    (hfunctions : ∀ name, functions.get? name =
      ((Evaluator.hoist (firstMachine source context) statements).functions.get? name).map
        (Function.respell .keep)) {settings : Settings} (hnever : settings.threshold = none) :
    Watched.Accords .keep
      (fun _ => Evaluator.Watch.Finished (pinning statements) Statement.isDeclaration statements)
      (Evaluator.hoist (firstMachine source context) statements)
      (preparedMachine source context functions)
      (Evaluator.Watch.runHoisted settings statements)
      (Evaluator.Watch.runHoisted settings
        ((statements.filter (!Statement.isDeclaration ·)).map (Statement.respell .keep))) :=
  Evaluator.Watch.accords_runHoisted (respelled_preparedMachine hnames hfunctions)
    fun _ hstatement => hnames.admissible hnever hstatement

theorem sameBesidesDeclarations_of_accords {settings : Settings}
    {result : EStateM.Result Fault Machine Unit}
    (hone : Run.Accords .keep
      (fun _ => Evaluator.Watch.Finished (pinning statements) Statement.isDeclaration statements)
      (Evaluator.runProgram settings statements (firstMachine source context)) result)
    (hother : Run.Accords .keep
      (fun _ => Evaluator.Watch.Finished (pinning statements') Statement.isDeclaration statements')
      (Evaluator.runProgram settings statements' (firstMachine source context)) result) :
    let one := execute (Evaluator.interpreter settings) source statements context
    let other := execute (Evaluator.interpreter settings) source statements' context
    SameBesidesDeclarations statements statements' one.1 other.1 ∧ one.2 = other.2 := by
  simp only [execute_eq]
  revert hone hother
  generalize Evaluator.runProgram settings statements _ = first
  generalize Evaluator.runProgram settings statements' _ = second
  intro hone hother
  cases hone with
  | ok hend =>
      cases hother with
      | ok hend' =>
          obtain ⟨values, hresults, hkept⟩ := hend.results
          obtain ⟨values', hresults', hkept'⟩ := hend'.results
          have hcontext := hend.context_eq.symm.trans hend'.context_eq
          have hsame := List.append_cancel_right (hkept.symm.trans hkept')
          refine ⟨?_, congrArg RunContext.tick hcontext⟩
          dsimp only
          rw [hresults, hresults', hcontext]
          refine .ok ?_
          simp only [pinning, List.append_nil, List.reverse_reverse, keptEntries_map]
          exact congrArg _ (List.reverse_injective hsame)
  | error hcontext hfault =>
      cases hother with
      | error hcontext' hfault' =>
          refine ⟨?_, hcontext.symm.trans hcontext'⟩
          obtain rfl := hfault.eq_of_keep
          obtain rfl := hfault'.eq_of_keep
          exact .error _

theorem execute_rearranged (hnames : OwnNames statements)
    (hrearranged : Rearranged statements statements') {settings : Settings}
    (hnever : settings.threshold = none) :
    let one := execute (Evaluator.interpreter settings) source statements context
    let other := execute (Evaluator.interpreter settings) source statements' context
    (SameBesidesDeclarations statements statements' one.1 other.1 ∧ one.2 = other.2) ∧
      history settings source statements context = history settings source statements' context := by
  have hknown := fun name => Dictionary.get?_mapValues (Function.respell .keep)
    (Evaluator.hoist (firstMachine source context) statements).functions name
  have hone := accords_others hnames hknown hnever
  have hother := accords_others (hrearranged.ownNames hnames)
    (fun name => (hknown name).trans (congrArg _ (hrearranged.get?_hoist hnames rfl name).symm))
    hnever
  rw [hrearranged.others] at hother
  constructor
  · have hresult := hone.result
    have hresult' := hother.result
    rw [← Evaluator.Watch.runProgram_eq_runHoisted] at hresult hresult'
    exact sameBesidesDeclarations_of_accords hresult hresult'
  · rw [history, history, Evaluator.Watch.history_runProgram, Evaluator.Watch.history_runProgram]
    exact hone.history_eq.symm.trans hother.history_eq

theorem history_eq_never (threshold : Option Nat) (source : String) (statements : List Statement)
    (files : FileSystem) (run : RunId) (clock : Nat) (readings : List Nat) :
    let context := freshContext files run clock readings
    history { threshold := threshold } source statements context =
      history { threshold := none } source statements context :=
  congrArg (changes _) (moments_eq_never threshold source statements files run clock readings)

/-- Wherever among the top-level statements the functions are declared, a program with names of
their own for them ends alike, with the same fault or with the same results but for those of the
declarations, and prints the same lines and writes the same files, in the end and from change to
change. -/
theorem execute_independent_of_placement (threshold : Option Nat) (source : String)
    (files : FileSystem) (run : RunId) (clock : Nat) (readings : List Nat)
    {statements statements' : List Statement}
    (hnames : OwnNames statements) (hrearranged : Rearranged statements statements') :
    let settings : Settings := { threshold := threshold }
    let context := freshContext files run clock readings
    let one := execute (Evaluator.interpreter settings) source statements context
    let other := execute (Evaluator.interpreter settings) source statements' context
    SameBesidesDeclarations statements statements' one.1 other.1 ∧
      one.2.output = other.2.output ∧ one.2.files = other.2.files ∧
      one.2.warnings = other.2.warnings ∧
      history settings source statements context = history settings source statements' context := by
  intro settings context one other
  obtain ⟨hresult, houtput, hfiles, hwarnings⟩ :=
    execute_eq_never threshold source statements files run clock readings
  obtain ⟨hresult', houtput', hfiles', hwarnings'⟩ :=
    execute_eq_never threshold source statements' files run clock readings
  have hhistory := history_eq_never threshold source statements files run clock readings
  have hhistory' := history_eq_never threshold source statements' files run clock readings
  -- without collections both programs leave the very same context
  obtain ⟨⟨hsame, hcontext⟩, hchanges⟩ := @execute_rearranged statements statements' source context
    hnames hrearranged { threshold := none } rfl
  refine ⟨?_, ?_, ?_, ?_, hhistory.trans (hchanges.trans hhistory'.symm)⟩
  · rw [hresult, hresult']
    exact hsame
  · exact houtput.trans ((congrArg RunContext.output hcontext).trans houtput'.symm)
  · exact hfiles.trans ((congrArg RunContext.files hcontext).trans hfiles'.symm)
  · exact hwarnings.trans ((congrArg RunContext.warnings hcontext).trans hwarnings'.symm)

/-- Two functions, one of which calls the other, declared behind or before the line that calls
them. -/
theorem execute_same_with_declarations_behind :
    let place : Span := ⟨0, 1⟩
    let double : Statement := .function place "Double" ["x"]
      [.return place (some (.binary place .add (.variable place "x") (.variable place "x")))] false
    let report : Statement := .function place "Report" []
      [.print place [.call place (.variable place "Double") [.literal place (.integer 21)]]] true
    let line : Statement := .expression place (.call place (.variable place "Report") [])
    let settings : Settings := { threshold := some 4096 }
    let context := freshContext .standard ⟨0⟩ 0 []
    let one := execute (Evaluator.interpreter settings) defaultSource [line, double, report] context
    let other := execute (Evaluator.interpreter settings) defaultSource [report, line, double]
      context
    OwnNames [line, double, report] ∧ Rearranged [line, double, report] [report, line, double] ∧
      SameBesidesDeclarations [line, double, report] [report, line, double] one.1 other.1 ∧
      one.2.output = other.2.output ∧ one.2.files = other.2.files := by
  intro place double report line settings context one other
  have hnames : OwnNames [line, double, report] := by
    constructor
    · change [Name.key "Double", Name.key "Report"].Nodup
      decide +kernel
    · intro statement hstatement name hname
      simp [line, double, report] at hstatement
      rcases hstatement with rfl | rfl | rfl <;>
        simp [Statement.innerNames, Statement.declaredNames, Statement.blockNames] at hname
  have hrearranged : Rearranged [line, double, report] [report, line, double] :=
    ⟨.swap _ _ _, rfl⟩
  obtain ⟨hsame, houtput, hfiles, -⟩ := execute_independent_of_placement (some 4096) defaultSource
    .standard ⟨0⟩ 0 [] hnames hrearranged
  exact ⟨hnames, hrearranged, hsame, houtput, hfiles⟩

end Launch

end BrightScript
