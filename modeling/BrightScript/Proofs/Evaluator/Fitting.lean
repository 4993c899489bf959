import BrightScript.Proofs.Component.Creation
import BrightScript.Proofs.Evaluator.Confinement
import BrightScript.Proofs.Method.Length
import BrightScript.Proofs.Storage.Reading

namespace BrightScript

open Procedure

section Syntax

variable (called : List String)

/-- If an expression is called, it is by one of some names. -/
def Expression.IsCalled : Expression → Prop
  | .variable _ name | .member _ _ name => Name.key name ∈ called
  | _ => True

mutual

/-- None of the texts that an expression spells out is too long. These are its literals and the
names of the entries of tables. All that it calls has one of some names. -/
def Expression.Fits : Expression → Prop
  | .literal _ value => (Evaluator.literal value).Fits
  | .variable _ _ => True
  | .array _ items => AllFit items
  | .table _ entries => FieldsFit entries
  | .call _ callee arguments => callee.IsCalled called ∧ callee.Fits ∧ AllFit arguments
  | .member _ object _ => object.Fits
  | .binary _ _ left right => left.Fits ∧ right.Fits
  | .unary _ _ operand => operand.Fits

def AllFit : List Expression → Prop
  | [] => True
  | expression :: rest => expression.Fits ∧ AllFit rest

def FieldsFit : List (String × Expression) → Prop
  | [] => True
  | (name, expression) :: rest => (Text.Fits name ∧ expression.Fits) ∧ FieldsFit rest

end

mutual

/-- None of the texts that a statement spells out is too long. Besides those of its expressions
these are the names of members that it sets, and of kinds of nodes and their fields. -/
def Statement.Fits : Statement → Prop
  | .library _ _ => True
  | .print _ values => AllFit called values
  | .assign _ _ value => value.Fits called
  | .assignMember _ object name value =>
    Text.Fits name ∧ value.Fits called ∧ object.Fits called
  | .expression _ value => value.Fits called
  | .conditional _ branches none => BranchesFit branches
  | .conditional _ branches (some body) => BranchesFit branches ∧ BlockFits body
  | .function _ _ _ body _ => BlockFits body
  | .return _ none => True
  | .return _ (some value) => value.Fits called
  | .component _ name _ fields => Text.Fits name ∧ FieldsFit called fields

def BranchesFit : List (Expression × List Statement) → Prop
  | [] => True
  | (condition, body) :: rest => (condition.Fits called ∧ BlockFits body) ∧ BranchesFit rest

def BlockFits : List Statement → Prop
  | [] => True
  | statement :: rest => statement.Fits ∧ BlockFits rest

end

end Syntax

/-- None of the files that can be read is too long. -/
def FileSystem.Fits (files : FileSystem) : Prop :=
  ∀ path text, files.readText path = .ok text → Text.Fits text

structure RunContext.Fits (context : RunContext) : Prop where
  heap : context.heap.All Component.Fits
  files : context.files.Fits
  catalog : context.catalog.Fits

/-- None of the texts that a machine holds is too long, and its functions call only what has one of
some names. -/
structure Machine.Fits (called : List String) (machine : Machine) : Prop where
  context : machine.context.Fits
  functions : ∀ function ∈ machine.functions.values, BlockFits called function.body
  frames : ∀ frame ∈ machine.frames, ∀ value ∈ frame.values, value.Fits
  temporaries : ∀ value ∈ machine.temporaries, value.Fits
  results : ∀ value ∈ machine.results, value.Fits

namespace FileSystem

theorem Fits.write {before after : FileSystem} (hbefore : before.Fits) {path text : String}
    (htext : Text.Fits text) (hwrite : before.writeText path text = .ok after) : after.Fits := by
  intro other found hread
  rcases readText_of_writeText hwrite hread with hold | rfl
  · exact hbefore other found hold
  · exact htext

theorem Fits.mount {files : FileSystem} (hfiles : files.Fits) (name : String) :
    (files.mount name .empty).Fits := by
  intro path text hread
  obtain ⟨other, location, volume, contents, hsplit, hvolume, hcontents, htext⟩ :=
    readText_eq_ok_iff.mp hread
  rw [volume?, FileSystem.mount, SortedMap.get?_insert] at hvolume
  split at hvolume
  · obtain rfl := Option.some.inj hvolume
    unfold Volume.read at hcontents
    dsimp only at hcontents
    split at hcontents <;> cases hcontents
  · exact hfiles path text
      (readText_eq_ok_iff.mpr
        ⟨other, location, volume, contents, hsplit, hvolume, hcontents, htext⟩)

theorem fits_empty : empty.Fits := by
  intro path text hread
  obtain ⟨_, _, volume, _, -, hvolume, -⟩ := readText_eq_ok_iff.mp hread
  cases hvolume

theorem fits_standard : standard.Fits :=
  (((fits_empty.mount "pkg:").mount "common:").mount "tmp:").mount "cachefs:"

end FileSystem

namespace RunContext

theorem Fits.tick {context : RunContext} (hcontext : context.Fits) : context.tick.Fits :=
  ⟨hcontext.heap, hcontext.files, hcontext.catalog⟩

theorem Fits.alloc {context : RunContext} (hcontext : context.Fits) {component : Component}
    (hcomponent : component.Fits) : (context.alloc component).2.Fits :=
  { hcontext with heap := hcontext.heap.alloc hcomponent }

end RunContext

namespace Machine

variable {called : List String} {machine : Machine}

theorem Fits.valueOf? (hmachine : machine.Fits called) {name : String} {value : Value}
    (hvalue : machine.valueOf? name = some value) : value.Fits := by
  obtain ⟨frame, hframe, hget⟩ := Option.bind_eq_some_iff.mp hvalue
  exact hmachine.frames frame (List.mem_of_head? hframe) value
    (Dictionary.mem_values_of_get? hget)

theorem Fits.assign (hmachine : machine.Fits called) (name : String) {value : Value}
    (hvalue : value.Fits) : (machine.assign name value).Fits called := by
  have hinsert : ∀ frame : Frame, (∀ old ∈ frame.values, old.Fits) →
      ∀ new ∈ (frame.insert name value).values, new.Fits := by
    intro frame hframe new hnew
    rcases Dictionary.mem_values_insert hnew with rfl | hold
    · exact hvalue
    · exact hframe new hold
  unfold Machine.assign
  split
  · next frame frames hframes =>
      obtain ⟨hframe, hrest⟩ := List.forall_mem_cons.mp (hframes ▸ hmachine.frames)
      exact { hmachine with frames := List.forall_mem_cons.mpr ⟨hinsert frame hframe, hrest⟩ }
  · refine { hmachine with frames := List.forall_mem_singleton.mpr ?_ }
    exact hinsert .empty (List.forall_mem_nil _)

theorem Fits.declare (hmachine : machine.Fits called) {function : Function}
    (hfunction : BlockFits called function.body) : (machine.declare function).Fits called := by
  refine { hmachine with functions := fun other hother => ?_ }
  rcases Dictionary.mem_values_insert hother with rfl | hold
  · exact hfunction
  · exact hmachine.functions other hold

theorem Fits.collect (hmachine : machine.Fits called) (settings : Settings) :
    (machine.collect settings).Fits called := by
  unfold Machine.collect
  split
  · exact hmachine
  · split
    · exact { hmachine with
        context := { hmachine.context with heap := hmachine.context.heap.collect _ } }
    · exact hmachine

theorem Fits.hoist (hmachine : machine.Fits called) {statements : List Statement}
    (hstatements : BlockFits called statements) :
    (Evaluator.hoist machine statements).Fits called := by
  unfold Evaluator.hoist
  induction statements generalizing machine with
  | nil => exact hmachine
  | cons statement rest ih =>
      rw [List.foldl_cons]
      refine ih ?_ hstatements.2
      split
      · exact hmachine.declare hstatements.1
      · exact hmachine

end Machine

namespace Constructor

/-- Out of texts that are not too long, a constructor makes components whose texts are not. -/
def MakesFitting (constructor : Constructor) : Prop :=
  ∀ (kind : String) (clock : Nat) (catalog : NodeCatalog) (arguments : List Value)
    (creation : Creation), catalog.Fits → (∀ argument ∈ arguments, argument.Fits) →
    constructor.make kind clock catalog arguments = .ok creation → creation.component.Fits

theorem fits_textArgument {kind text : String} {arguments : List Value} {position : Nat}
    (harguments : ∀ argument ∈ arguments, argument.Fits)
    (htext : textArgument kind arguments position = .ok text) : Text.Fits text := by
  unfold textArgument at htext
  split at htext
  · next value hvalue =>
      cases htext
      exact harguments _ (List.mem_of_getElem? hvalue)
  · cases htext

theorem makesFitting_plain {make : Nat → Component} (hmake : ∀ clock, (make clock).Fits) :
    (plain make).MakesFitting := by
  intro kind clock catalog arguments creation _ _ hcreation
  obtain ⟨_, -, hcreation⟩ := bind_eq_ok_iff.mp hcreation
  cases hcreation
  exact hmake clock

theorem makesFitting_optionalText {make : Option String → Except String Component}
    (hmake : ∀ text component, (∀ given ∈ text, Text.Fits given) → make text = .ok component →
      component.Fits) : (optionalText make).MakesFitting := by
  intro kind clock catalog arguments creation _ harguments hcreation
  obtain ⟨_, -, hcreation⟩ := bind_eq_ok_iff.mp hcreation
  dsimp only at hcreation
  split at hcreation
  · exact hmake none _ nofun (eq_ok_of_wrap hcreation)
  · obtain ⟨text, htext, hcreation⟩ := bind_eq_ok_iff.mp hcreation
    obtain ⟨given, hgiven, rfl⟩ := map_eq_ok_iff.mp htext
    refine hmake (some given) _ (fun found hfound => ?_) (eq_ok_of_wrap hcreation)
    obtain rfl := Option.mem_some_iff.mp hfound
    exact fits_textArgument harguments hgiven

theorem makesFitting_textPair {make : String → String → Except String Component}
    (hmake : ∀ first second component, make first second = .ok component → component.Fits) :
    (textPair make).MakesFitting := by
  intro kind clock catalog arguments creation _ _ hcreation
  obtain ⟨_, -, hcreation⟩ := bind_eq_ok_iff.mp hcreation
  obtain ⟨first, -, hcreation⟩ := bind_eq_ok_iff.mp hcreation
  obtain ⟨second, -, hcreation⟩ := bind_eq_ok_iff.mp hcreation
  exact hmake first second _ (eq_ok_of_wrap hcreation)

theorem makesFitting_custom {make : List Value → Except CreationError Component}
    (hmake : ∀ arguments component, make arguments = .ok component → component.Fits) :
    (custom make).MakesFitting := by
  intro kind clock catalog arguments creation _ _ hcreation
  obtain ⟨component, hcomponent, hcreation⟩ := bind_eq_ok_iff.mp hcreation
  cases hcreation
  exact hmake arguments component hcomponent

theorem makesFitting_node : node.MakesFitting := by
  intro kind clock catalog arguments creation hcatalog _ hcreation
  obtain ⟨_, -, hcreation⟩ := bind_eq_ok_iff.mp hcreation
  obtain ⟨name, -, hcreation⟩ := bind_eq_ok_iff.mp hcreation
  unfold makeNode at hcreation
  split at hcreation
  · next draft hdraft =>
      cases hcreation
      exact Component.fits_node.mpr (hcatalog.draftWithin hdraft)
  · cases hcreation

end Constructor

namespace Registry

theorem all_makesFitting_builtin : builtin.All Constructor.MakesFitting := by
  unfold builtin
  refine .register (.register (.register (.register (.register (.register (.register (.register
    (.register (all_empty _) _ ?_) _ ?_) _ ?_) _ ?_) _ ?_) _ ?_) _ ?_) _ ?_) _ ?_
  · refine Constructor.makesFitting_custom fun arguments component hmake => ?_
    obtain rfl := makeArray_eq hmake
    exact Component.fits_array.mpr (List.forall_mem_nil _)
  · exact Constructor.makesFitting_plain fun _ => Component.fits_table.mpr Dictionary.fits_empty
  · exact Constructor.makesFitting_plain fun _ => Component.fits_list.mpr (List.forall_mem_nil _)
  · exact Constructor.makesFitting_plain Component.fits_timespan
  · refine Constructor.makesFitting_textPair fun source flags component hmake => ?_
    unfold makeRegex at hmake
    split at hmake
    · cases hmake
      exact Component.fits_regex _
    · cases hmake
  · refine Constructor.makesFitting_optionalText fun text component htext hmake => ?_
    cases hmake
    cases text with
    | none => exact Component.fits_text.mpr (by decide)
    | some text => exact Component.fits_text.mpr (htext text rfl)
  · refine Constructor.makesFitting_plain fun _ => Component.fits_element.mpr ?_
    exact ⟨by decide, List.forall_mem_nil _, List.forall_mem_nil _⟩
  · exact Constructor.makesFitting_plain fun _ => Component.fits_elementList _
  · exact Constructor.makesFitting_node

theorem All.fits_create {registry : Registry} (hregistry : registry.All Constructor.MakesFitting)
    {clock : Nat} {catalog : NodeCatalog} (hcatalog : catalog.Fits) {kind : String}
    {arguments : List Value} (harguments : ∀ argument ∈ arguments, argument.Fits)
    {creation : Creation}
    (hcreation : registry.create clock catalog kind arguments = .ok creation) :
    creation.component.Fits := by
  unfold create at hcreation
  split at hcreation
  · next entry hentry =>
      exact hregistry kind entry hentry _ _ _ _ _ hcatalog harguments hcreation
  · cases hcreation

end Registry

theorem Value.fits_typeName (value : Value) : Text.Fits value.typeName := by
  unfold typeName
  split <;> decide

theorem Component.Fits.kindName {component : Component} (hcomponent : component.Fits) :
    Text.Fits component.kindName := by
  unfold Component.kindName
  split
  case h_10 object => exact (fits_host.mp hcomponent).1
  all_goals decide

namespace Builtin

variable {registry : Registry} {name : String} {arguments : List Value}

theorem fits_typeOf {heap : Heap} (hheap : heap.All Component.Fits) (value : Value) :
    Text.Fits (typeOf heap value) := by
  unfold typeOf
  split
  · split
    · next component hget => exact (Heap.all_iff.mp hheap _ component hget).kindName
    · decide
  · exact value.fits_typeName

theorem fits_signedText {value : Value} (hnumber : value.number?.isSome) :
    Text.Fits (signedText value) := by
  have hlength := Value.length_display_le hnumber
  refine Text.fits_of_length_le ?_
  unfold signedText
  dsimp only
  split
  · omega
  · rw [String.length_append]
    change 1 + _ ≤ _
    omega

theorem key_of_upper (hname : ofName? name = some .upper) : Name.key name = "ucase" := by
  unfold ofName? at hname
  split at hname <;> first | assumption | cases hname

theorem key_of_lower (hname : ofName? name = some .lower) : Name.key name = "lcase" := by
  unfold ofName? at hname
  split at hname <;> first | assumption | cases hname

/-- A function of which the program may give texts keeps to the limit, unless it changes their
case. -/
theorem fits_call (hregistry : registry.All Constructor.MakesFitting) {function : Builtin}
    (hupper : function ≠ .upper) (hlower : function ≠ .lower)
    (harguments : ∀ argument ∈ arguments, argument.Fits) {action : Action}
    (haction : function.call registry name arguments = .ok action) {context : RunContext}
    (hcontext : context.Fits) : (action context).2.Fits ∧ (action context).1.Fits := by
  cases function with
  | createObject =>
      obtain ⟨kind, -, haction⟩ := bind_eq_ok_iff.mp haction
      cases haction
      have hticked := hcontext.tick
      unfold RunContext.timed create
      split
      · next creation hcreation =>
          have hcomponent := hregistry.fits_create hticked.catalog
            (fun argument hargument => harguments argument (List.mem_of_mem_tail hargument))
            hcreation
          have hwarned : (context.tick.warn creation.warnings).Fits := { hticked with }
          exact ⟨hwarned.alloc hcomponent, trivial⟩
      · exact ⟨hticked, trivial⟩
  | type =>
      obtain ⟨_, -, haction⟩ := bind_eq_ok_iff.mp haction
      cases haction
      exact ⟨hcontext, fits_typeOf hcontext.heap _⟩
  | upper => exact absurd rfl hupper
  | lower => exact absurd rfl hlower
  | length =>
      obtain ⟨_, -, haction⟩ := bind_eq_ok_iff.mp haction
      obtain ⟨value, -, haction⟩ := bind_eq_ok_iff.mp haction
      cases haction
      exact ⟨hcontext, trivial⟩
  | numberText =>
      obtain ⟨_, -, haction⟩ := bind_eq_ok_iff.mp haction
      dsimp only at haction
      split at haction
      · next number hnumber =>
          cases haction
          exact ⟨hcontext, fits_signedText (Option.isSome_of_eq_some hnumber)⟩
      · cases haction
  | textNumber =>
      obtain ⟨_, -, haction⟩ := bind_eq_ok_iff.mp haction
      obtain ⟨value, -, haction⟩ := bind_eq_ok_iff.mp haction
      cases haction
      refine ⟨hcontext, ?_⟩
      change (numberOf value).Fits
      unfold numberOf
      dsimp only
      split <;> exact trivial
  | readFile =>
      obtain ⟨_, -, haction⟩ := bind_eq_ok_iff.mp haction
      obtain ⟨path, -, haction⟩ := bind_eq_ok_iff.mp haction
      cases haction
      unfold read
      split
      · next contents hcontents => exact ⟨hcontext, hcontext.files path contents hcontents⟩
      · exact ⟨hcontext, Text.fits_of_length_le (by decide)⟩
  | writeFile =>
      obtain ⟨path, contents, rfl, rfl⟩ := call_writeFile_eq_ok_iff.mp haction
      have hcontents : Text.Fits contents := harguments (.text contents) (by simp)
      unfold write
      split
      · next files hfiles =>
          exact ⟨{ hcontext with files := hcontext.files.write hcontents hfiles }, trivial⟩
      · exact ⟨hcontext, trivial⟩

end Builtin

namespace Operator

theorem concatenate_of_lt {first second : String}
    (hlong : maxTextBytes < first.utf8ByteSize + second.utf8ByteSize) :
    concatenate first second = .error .textTooLong := by
  rw [concatenate, if_pos hlong]

theorem fits_concatenate {left right : String} {value : Value}
    (hvalue : concatenate left right = .ok value) : value.Fits := by
  unfold concatenate at hvalue
  split at hvalue
  · cases hvalue
  · next hbytes =>
      cases hvalue
      exact Text.fits_append (Nat.le_of_not_gt hbytes)

theorem fits_binary {operator : BinaryOperator} {left right value : Value}
    (hvalue : binary operator left right = .ok value) : value.Fits := by
  have harithmetic : arithmetic operator left right = .ok value → value.Fits := by
    intro hvalue
    unfold arithmetic at hvalue
    split at hvalue
    · split at hvalue
      · exact fits_concatenate hvalue
      · cases hvalue
    · unfold integers at hvalue
      split at hvalue
      · cases hvalue
        exact trivial
      · cases hvalue
        exact trivial
      · cases hvalue
        exact trivial
      · split at hvalue <;> cases hvalue
        exact trivial
    · unfold numbers at hvalue
      split at hvalue <;> cases hvalue
      exact trivial
  unfold binary at hvalue
  split at hvalue
  · cases hvalue
  · cases hvalue
  · exact harithmetic hvalue
  · exact harithmetic hvalue
  · exact harithmetic hvalue
  · exact harithmetic hvalue
  · obtain ⟨ordering, -, hvalue⟩ := bind_eq_ok_iff.mp hvalue
    cases hvalue
    exact trivial

theorem fits_unary {operator : UnaryOperator} {operand value : Value}
    (hvalue : unary operator operand = .ok value) : value.Fits := by
  unfold unary at hvalue
  split at hvalue <;> cases hvalue <;> exact trivial

end Operator

namespace Run

variable {called : List String} {α : Type} {post : α → Prop}

theorem keeps_fail (error : RuntimeError) (span : Option Span) :
    Procedure.Keeps (Machine.Fits called) post (fail error span) := .throw _

theorem keeps_lift {span : Span} {result : Except RuntimeError α}
    (hresult : ∀ value, result = .ok value → post value) :
    Procedure.Keeps (Machine.Fits called) post (lift span result) := by
  cases result with
  | ok value => exact .pure (hresult value rfl)
  | error error => exact keeps_fail error _

theorem keeps_withContext {change : RunContext → α × RunContext}
    (hchange : ∀ context : RunContext, context.Fits →
      (change context).2.Fits ∧ post (change context).1) :
    Procedure.Keeps (Machine.Fits called) post (withContext change) := by
  rintro ⟨context, scope, functions, frames, temporaries, results⟩ hmachine
  obtain ⟨hcontext, hpost⟩ := hchange context hmachine.context
  exact ⟨⟨hcontext, hmachine.functions, hmachine.frames, hmachine.temporaries,
    hmachine.results⟩, hpost⟩

theorem keeps_alloc {component : Component} (hcomponent : component.Fits) :
    Procedure.Keeps (Machine.Fits called) Value.Fits (alloc component) := by
  have hchange : Procedure.Keeps (Machine.Fits called) (fun _ => True)
      (withContext (·.alloc component)) :=
    keeps_withContext fun context hcontext => ⟨hcontext.alloc hcomponent, trivial⟩
  exact .bind hchange fun handle _ => .pure trivial

end Run

namespace Evaluator

variable {called : List String}

theorem fits_readVariable (span : Span) (name : String) :
    Procedure.Keeps (Machine.Fits called) Value.Fits (readVariable span name) := by
  refine .bind .get fun machine hmachine => ?_
  split
  · next value hvalue => exact .pure (hmachine.valueOf? hvalue)
  · split
    · exact Run.keeps_fail _ _
    · exact Run.keeps_fail _ _

theorem fits_object (span : Span) (name : String) (value : Value) :
    Procedure.Keeps (Machine.Fits called) (fun handle => value = .object handle)
      (object span name value) := by
  cases value with
  | object handle => exact .pure rfl
  | _ => exact Run.keeps_fail _ _

theorem fits_truth (span : Span) (value : Value) :
    Procedure.Keeps (Machine.Fits called) (fun _ => True) (truth span value) := by
  cases value with
  | boolean value => exact .pure trivial
  | _ => exact Run.keeps_fail _ _

theorem fits_getMember (span : Span) (handle : Handle) (name : String) :
    Procedure.Keeps (Machine.Fits called) Value.Fits (getMember span handle name) := by
  refine .bind .get fun machine hmachine => Run.keeps_lift fun value hvalue => ?_
  exact Heap.fits_getMember hmachine.context.heap (mapError_eq_ok_iff.mp hvalue)

theorem fits_setMember (span : Span) (handle : Handle) {name : String} {value : Value}
    (hname : Text.Fits name) (hvalue : value.Fits) :
    Procedure.Keeps (Machine.Fits called) (fun _ => True) (setMember span handle name value) := by
  have hwrite : Procedure.Keeps (Machine.Fits called) (fun _ => True)
      (Run.withContext (writeOn handle name value)) :=
    Run.keeps_withContext fun context hcontext =>
      ⟨{ hcontext with heap := Heap.all_writeMember hcontext.heap hname hvalue }, trivial⟩
  exact .bind hwrite fun _ _ => Run.keeps_lift fun _ _ => trivial

end Evaluator

end BrightScript
