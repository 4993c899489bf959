import BrightScript.Program.Linked
import Mathlib.Logic.Basic

namespace BrightScript

/-- The statements of a text and the libraries that it asks for. -/
structure Compiled where
  statements : List Statement
  libraries : LibrarySet

/-- The tokens of a scanned text, unless scanning failed. -/
def Scanned.outcome (scanned : Scanned) : Except (List Diagnostic) (List Lexeme) :=
  if scanned.errors = [] then .ok scanned.lexemes else .error scanned.errors

/-- What a text was parsed to, unless parsing failed. -/
def Parsed.outcome (parsed : Parsed) : Except (List Diagnostic) Compiled :=
  if parsed.errors = [] then .ok ⟨parsed.statements, parsed.libraries⟩ else .error parsed.errors

/-- What compiling a text leads to: the diagnostics are those of the first stage that fails. -/
abbrev Compilation := Except (List Diagnostic) Compiled

namespace Compilation

/-- Compiles a unit on its own. -/
def ofUnit (stages : Stages) (manifest : Manifest) (unit : SourceUnit) : Compilation := do
  let lexemes ← (stages.scan unit.text unit.path).outcome
  let kept ← stages.preprocess lexemes manifest unit.path
  (stages.parse kept unit.path).outcome

/-- Compiles a library, which has no directives. -/
def ofLibrary (stages : Stages) (library : Library) : Compilation := do
  let lexemes ← (stages.scan library.source library.path).outcome
  (stages.parse lexemes library.path).outcome

/-- The statements that a text adds to a program. -/
def statements : Compilation → List Statement
  | .ok compiled => compiled.statements
  | .error _ => []

/-- What is reported about a text. -/
def errors : Compilation → List Diagnostic
  | .ok _ => []
  | .error errors => errors

/-- Whether a text does not compile. -/
def failed : Compilation → Bool
  | .ok _ => false
  | .error _ => true

/-- A text asks for a library. One without statements asks for none. -/
def Requests (compilation : Compilation) (library : Library) : Prop :=
  ∃ compiled, compilation = .ok compiled ∧ compiled.statements ≠ [] ∧
    compiled.libraries.contains library = true

end Compilation

namespace LibrarySet

theorem eq_of_contains {left right : LibrarySet}
    (hcontains : ∀ library, left.contains library = right.contains library) : left = right := by
  obtain ⟨defender, core, ads⟩ := left
  obtain ⟨defender', core', ads'⟩ := right
  obtain rfl : defender = defender' := hcontains .defender
  obtain rfl : core = core' := hcontains .core
  obtain rfl : ads = ads' := hcontains .ads
  rfl

theorem contains_union (left right : LibrarySet) (library : Library) :
    (left.union right).contains library = (left.contains library || right.contains library) := by
  cases library <;> rfl

theorem contains_foldl_union {set : LibrarySet} {sets : List LibrarySet} {library : Library} :
    (sets.foldl union set).contains library = true ↔
      set.contains library = true ∨ ∃ other ∈ sets, other.contains library = true := by
  induction sets generalizing set with
  | nil => simp
  | cons other sets ih =>
      rw [List.foldl_cons, ih, contains_union, Bool.or_eq_true, or_assoc]
      simp only [List.mem_cons, exists_eq_or_imp]

theorem mem_resolve {set : LibrarySet} {library : Library} :
    library ∈ set.resolve ↔ set.contains library = true ∨
      library = .core ∧ set.contains .defender = true := by
  rw [resolve, toList, List.mem_filter]
  cases library <;> simp [Library.all, closure, contains]

theorem resolve_sublist (set : LibrarySet) : set.resolve.Sublist Library.all :=
  List.filter_sublist

end LibrarySet

/-- A unit that was compiled. -/
def Compilation.loaded (compilation : Compilation) (path : String) : LoadedUnit :=
  match compilation with
  | .ok compiled => ⟨path, compiled.statements, false, compiled.libraries⟩
  | .error _ => LinkedProgram.failedUnit path

namespace LinkedProgram

theorem loadUnit_eq (stages : Stages) (manifest : Manifest) (unit : SourceUnit) :
    loadUnit stages manifest unit =
      let compilation := Compilation.ofUnit stages manifest unit
      (compilation.loaded unit.path, compilation.errors) := by
  simp only [loadUnit, Compilation.ofUnit, Scanned.outcome, Parsed.outcome, List.isEmpty_iff,
    Bool.not_eq_true', ← Bool.not_eq_true, ite_not]
  split
  · dsimp only [bind, Except.bind]
    cases stages.preprocess (stages.scan unit.text unit.path).lexemes manifest unit.path with
    | error errors => rfl
    | ok kept =>
        dsimp only
        split <;> rfl
  · rfl

theorem loadLibrary_eq (stages : Stages) (library : Library) :
    loadLibrary stages library =
      let compilation := Compilation.ofLibrary stages library
      (compilation.statements, compilation.errors) := by
  simp only [loadLibrary, Compilation.ofLibrary, Scanned.outcome, Parsed.outcome, List.isEmpty_iff,
    Bool.not_eq_true', ← Bool.not_eq_true, ite_not]
  split
  · dsimp only [bind, Except.bind]
    split <;> rfl
  · rfl

/-- The libraries that loaded units ask for. -/
def requested (units : List LoadedUnit) : LibrarySet :=
  ((units.filter contributes).map (·.libraries)).foldl LibrarySet.union .empty

theorem contains_requested {units : List LoadedUnit} {library : Library} :
    (requested units).contains library = true ↔
      ∃ unit ∈ units, contributes unit = true ∧ unit.libraries.contains library = true := by
  have hempty : LibrarySet.empty.contains library = false := by cases library <;> rfl
  rw [requested, LibrarySet.contains_foldl_union, hempty]
  simp only [Bool.false_eq_true, false_or, List.mem_map, exists_exists_and_eq_and]
  simp only [List.mem_filter, and_assoc]

theorem contributes_loaded_iff {compilation : Compilation} {path : String} {library : Library} :
    contributes (compilation.loaded path) = true ∧
      (compilation.loaded path).libraries.contains library = true ↔
      compilation.Requests library := by
  cases compilation with
  | error errors => simp [Compilation.loaded, failedUnit, contributes, Compilation.Requests]
  | ok compiled => simp [Compilation.loaded, contributes, Compilation.Requests]

theorem statements_loaded (compilation : Compilation) (path : String) :
    (compilation.loaded path).statements = compilation.statements := by
  cases compilation <;> rfl

theorem statements_of_not_contributes {compilation : Compilation} {path : String}
    (hleft : contributes (compilation.loaded path) = false) : compilation.statements = [] := by
  cases compilation with
  | ok compiled => simpa [Compilation.loaded, contributes, Compilation.statements] using hleft
  | error errors => rfl

theorem flatMap_filter {α β : Type} {f : α → List β} {p : α → Bool} {list : List α}
    (hdropped : ∀ entry ∈ list, p entry = false → f entry = []) :
    (list.filter p).flatMap f = list.flatMap f := by
  induction list with
  | nil => rfl
  | cons entry list ih =>
      obtain ⟨hentry, hlist⟩ := List.forall_mem_cons.mp hdropped
      cases hkept : p entry with
      | true => rw [List.filter_cons_of_pos hkept, List.flatMap_cons, List.flatMap_cons, ih hlist]
      | false =>
          rw [List.filter_cons_of_neg (by simp [hkept]), List.flatMap_cons, hentry hkept, ih hlist,
            List.nil_append]

theorem flatMap_zip_map {α β γ : Type} (f : α → β) (g : α × β → List γ) (list : List α) :
    (list.zip (list.map f)).flatMap g = list.flatMap fun entry => g (entry, f entry) := by
  induction list with
  | nil => rfl
  | cons entry list ih => rw [List.map_cons, List.zip_cons_cons, List.flatMap_cons, ih]; rfl

variable {stages : Stages} {manifest : Manifest} {units others : List SourceUnit}

/-- Some unit asks for a library. -/
def Requested (stages : Stages) (manifest : Manifest) (units : List SourceUnit)
    (library : Library) : Prop :=
  ∃ unit ∈ units, (Compilation.ofUnit stages manifest unit).Requests library

/-- A program and what was found on the way are what the units come to, each taken on its own. A
library that does not compile is one of the program all the same. -/
structure IsLinkedFrom (stages : Stages) (manifest : Manifest) (units : List SourceUnit)
    (program : LinkedProgram) (found : List Finding) : Prop where
  failed_eq : program.units.map (·.failed) =
    units.map fun unit => (Compilation.ofUnit stages manifest unit).failed
  statements_eq : program.statements =
    (units.flatMap fun unit => (Compilation.ofUnit stages manifest unit).statements) ++
      program.libraries.flatMap fun library => (Compilation.ofLibrary stages library).statements
  ordered : program.libraries.Sublist Library.all
  mem_libraries_iff : ∀ library, library ∈ program.libraries ↔
    Requested stages manifest units library ∨
      library = .core ∧ Requested stages manifest units .defender
  found_eq : found =
    (units.flatMap fun unit =>
      findings unit.text (Compilation.ofUnit stages manifest unit).errors) ++
      program.libraries.flatMap fun library =>
        findings library.source (Compilation.ofLibrary stages library).errors

/-- The units of a channel after their stages. -/
def loadedUnits (stages : Stages) (manifest : Manifest) (units : List SourceUnit) :
    List LoadedUnit :=
  units.map fun unit => (Compilation.ofUnit stages manifest unit).loaded unit.path

theorem contains_requested_loadedUnits {library : Library} :
    (requested (loadedUnits stages manifest units)).contains library = true ↔
      Requested stages manifest units library := by
  simp only [contains_requested, loadedUnits, List.mem_map, exists_exists_and_eq_and,
    contributes_loaded_iff, Requested]

theorem load_libraries : (load stages manifest units).1.libraries =
    (requested (loadedUnits stages manifest units)).resolve := by
  simp only [load, link, requested, loadedUnits, loadUnit_eq, List.map_map, Function.comp_def]

theorem load_libraries_congr (hrequested : ∀ library,
    Requested stages manifest others library ↔ Requested stages manifest units library) :
    (load stages manifest others).1.libraries = (load stages manifest units).1.libraries := by
  rw [load_libraries, load_libraries]
  congr 1
  refine LibrarySet.eq_of_contains fun library => Bool.eq_iff_iff.mpr ?_
  rw [contains_requested_loadedUnits, contains_requested_loadedUnits, hrequested]

theorem load_statements : (load stages manifest units).1.statements =
    (units.flatMap fun unit => (Compilation.ofUnit stages manifest unit).statements) ++
      (load stages manifest units).1.libraries.flatMap fun library =>
        (Compilation.ofLibrary stages library).statements := by
  have hunits : ((loadedUnits stages manifest units).filter contributes).flatMap (·.statements) =
      units.flatMap fun unit => (Compilation.ofUnit stages manifest unit).statements := by
    rw [flatMap_filter]
    · simp only [loadedUnits, List.flatMap_map, statements_loaded]
    · intro loaded hloaded hleft
      obtain ⟨unit, -, rfl⟩ := List.mem_map.mp hloaded
      rw [statements_loaded, statements_of_not_contributes hleft]
  rw [← hunits]
  simp only [load, link, loadedUnits, loadUnit_eq, loadLibrary_eq, List.map_map, Function.comp_def,
    List.flatMap_map]

theorem load_found : (load stages manifest units).2 =
    (units.flatMap fun unit =>
      findings unit.text (Compilation.ofUnit stages manifest unit).errors) ++
      (load stages manifest units).1.libraries.flatMap fun library =>
        findings library.source (Compilation.ofLibrary stages library).errors := by
  simp only [load, link, flatMap_zip_map, loadUnit_eq, loadLibrary_eq]

theorem load_isLinkedFrom : IsLinkedFrom stages manifest units (load stages manifest units).1
    (load stages manifest units).2 where
  failed_eq := by
    simp only [load, link, List.map_map]
    refine List.map_congr_left fun unit _ => ?_
    rw [Function.comp_apply, Function.comp_apply, Function.comp_apply, loadUnit_eq]
    cases Compilation.ofUnit stages manifest unit <;> rfl
  statements_eq := load_statements
  ordered := by
    rw [load_libraries]
    exact LibrarySet.resolve_sublist _
  mem_libraries_iff library := by
    rw [load_libraries, LibrarySet.mem_resolve, contains_requested_loadedUnits,
      contains_requested_loadedUnits]
  found_eq := load_found

theorem requested_filter_iff (stages : Stages) (manifest : Manifest) (units : List SourceUnit)
    (library : Library) :
    Requested stages manifest
        (units.filter fun unit => !(Compilation.ofUnit stages manifest unit).failed) library ↔
      Requested stages manifest units library := by
  simp only [Requested, List.mem_filter, and_assoc]
  refine exists_congr fun unit => and_congr_right fun _ => and_iff_right_of_imp ?_
  rintro ⟨compiled, hcompiled, -⟩
  rw [hcompiled]
  rfl

theorem statements_of_failed {compilation : Compilation} (hfailed : compilation.failed = true) :
    compilation.statements = [] := by
  cases compilation with
  | ok compiled => cases hfailed
  | error errors => rfl

/-- A program is linked from its units as each of them compiles on its own. Without the units that
fail it is the same, and its libraries do not depend on the order or the number of the units. -/
theorem load_isolates (stages : Stages) (manifest : Manifest) (units : List SourceUnit) :
    IsLinkedFrom stages manifest units (load stages manifest units).1
        (load stages manifest units).2 ∧
      (let compiling := units.filter fun unit => !(Compilation.ofUnit stages manifest unit).failed
       (load stages manifest compiling).1.statements = (load stages manifest units).1.statements ∧
         (load stages manifest compiling).1.libraries = (load stages manifest units).1.libraries) ∧
      ∀ others : List SourceUnit, (∀ unit, unit ∈ others ↔ unit ∈ units) →
        (load stages manifest others).1.libraries = (load stages manifest units).1.libraries := by
  have hcompiling := load_libraries_congr (requested_filter_iff stages manifest units)
  refine ⟨load_isLinkedFrom, ⟨?_, hcompiling⟩, fun others hothers => ?_⟩
  · rw [load_statements, load_statements, hcompiling, flatMap_filter]
    exact fun unit _ hdropped => statements_of_failed (by simpa using hdropped)
  · exact load_libraries_congr fun library =>
      exists_congr fun unit => and_congr_left fun _ => hothers unit

end LinkedProgram

end BrightScript
