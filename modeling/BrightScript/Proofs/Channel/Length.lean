import BrightScript.Proofs.Channel.Launch
import BrightScript.Proofs.Evaluator.Length
import BrightScript.Proofs.Method.Effect

namespace BrightScript

namespace Evaluator

variable {call : Caller} {settings : Settings} {machine : Machine}

theorem evaluateAll_texts (place : Span) (first second : String) :
    evaluateAll settings call [.literal place (.text first), .literal place (.text second)]
      machine = .ok [.text first, .text second] machine := by
  rw [evaluateAll, evaluateAll, evaluateAll, evaluate, evaluate]
  rfl

theorem evaluate_createText (threshold : Option Nat) (call : Caller) (machine : Machine)
    (place : Span) (text : String) :
    evaluate { threshold := threshold } call (.call place (.variable place "CreateObject")
      [.literal place (.text "roString"), .literal place (.text text)]) machine =
      .ok (.object ((machine.context.tick.warn []).alloc (.text text)).1)
        { machine with context := ((machine.context.tick.warn []).alloc (.text text)).2 } := by
  have hname : Builtin.ofName? "CreateObject" = some .createObject := by decide +kernel
  rw [evaluate, Procedure.bind_ok (evaluateAll_texts place "roString" text), callNamed, hname]
  change Run.withContext (RunContext.timed (Builtin.create .builtin "roString" [.text text]))
    machine = _
  unfold Run.withContext RunContext.timed Builtin.create
  dsimp only
  rw [Registry.create_text]

theorem callMethod_eq_ok (span : Span) {receiver : Handle} {name : String}
    {arguments : List Value} {value : Value}
    (hresult : (RunContext.timed (callOn receiver name arguments) machine.context).1 =
      .ok value) :
    ∃ after, callMethod span receiver name arguments machine = .ok value after := by
  change ∃ after, Run.lift span
    ((RunContext.timed (callOn receiver name arguments) machine.context).1.mapError _) _ =
      .ok value after
  rw [hresult]
  exact ⟨_, rfl⟩

theorem evaluate_replaceText (threshold : Option Nat) (call : Caller) (place : Span)
    (hmachine : machine.context.heap.WellFormed) {needle : String}
    (hneedle : needle.isEmpty = false) (replacement text : String) :
    ∃ after, evaluate { threshold := threshold } call (.call place
      (.member place (.call place (.variable place "CreateObject")
        [.literal place (.text "roString"), .literal place (.text text)]) "Replace")
      [.literal place (.text needle), .literal place (.text replacement)]) machine =
        .ok (.text (String.ofList (Text.replaceAll needle.toList replacement.toList text.toList)))
          after := by
  have hcreated := evaluate_createText threshold call machine place text
  set handle := ((machine.context.tick.warn []).alloc (.text text)).1
  set middle : Machine :=
    { machine with context := ((machine.context.tick.warn []).alloc (.text text)).2 }
  have hticked : (machine.context.tick.warn []).heap.WellFormed := hmachine.atTime _
  have hget : middle.context.tick.heap.get? handle = some (.text text) :=
    (hticked.get?_alloc (.text text) handle).trans (if_pos rfl)
  have hheld : Run.holding (.object handle) (evaluateAll { threshold := threshold } call
      [.literal place (.text needle), .literal place (.text replacement)]) middle =
        .ok [.text needle, .text replacement] middle := by
    rw [Run.holding, Run.bracket, evaluateAll_texts]
    rfl
  have hmethod : Name.key "Replace" = "replace" := by decide +kernel
  have hresult : (RunContext.timed (callOn handle "Replace" [.text needle, .text replacement])
      middle.context).1 = .ok (.text (String.ofList
        (Text.replaceAll needle.toList replacement.toList text.toList))) := by
    change (middle.context.tick.heap.callMethod _ _ _ _).result = _
    rw [Heap.callMethod_of_own hget]
    rw [Component.call_text, hmethod, TextMethod.call_replace hneedle]
    rfl
  obtain ⟨after, hcalled⟩ := callMethod_eq_ok place hresult
  rw [evaluate, Procedure.bind_ok hcreated, Procedure.bind_ok hheld]
  exact ⟨after, hcalled⟩

end Evaluator

namespace Launch

theorem fits_scope {source : String} (hsource : Text.Fits source) : (scope source).Fits := by
  refine Component.fits_table.mpr (Dictionary.fits_ofList fun entry hentry => ?_)
  rcases List.mem_pair.mp hentry with rfl | rfl
  · decide
  · exact ⟨show Text.Fits "source" by decide, hsource⟩

theorem fits_firstMachine {source : String} {files : FileSystem} (called : List String)
    (hsource : Text.Fits source) (hfiles : files.Fits) (run : RunId) (clock : Nat)
    (readings : List Nat) :
    (firstMachine source (freshContext files run clock readings)).Fits called := by
  have hempty : Heap.All Component.Fits { run := run, clock := clock } :=
    fun _ hslot => absurd hslot (Array.not_mem_empty _)
  have hcontext : (freshContext files run clock readings).Fits :=
    ⟨hempty, hfiles, List.forall_mem_nil _⟩
  refine ⟨hcontext.alloc (fits_scope hsource), ?_, ?_, ?_, ?_⟩
  · exact List.forall_mem_nil _
  · exact List.forall_mem_singleton.mpr (List.forall_mem_nil _)
  · exact List.forall_mem_nil _
  · exact List.forall_mem_nil _

theorem textsFit_moments (threshold : Option Nat) {source : String} {statements : List Statement}
    {files : FileSystem} (run : RunId) (clock : Nat) (readings : List Nat) {called : List String}
    (hsource : Text.Fits source) (hfiles : files.Fits) (hstatements : BlockFits called statements)
    (hbuilt : BuiltFit called (moments { threshold := threshold } source statements
      (freshContext files run clock readings))) :
    TextsFit (moments { threshold := threshold } source statements
      (freshContext files run clock readings)) := by
  intro moment hmoment text hcontains
  have hbounds : Evaluator.Watch.Bounds { threshold := threshold } called _ _ :=
    Evaluator.Watch.bounds_callFunction Registry.all_makesFitting_builtin hbuilt
  have hfirst := fits_firstMachine called hsource hfiles run clock readings
  have hkept := Evaluator.Watch.keeps_runProgram hbounds statements hstatements _ hfirst
    fun _ hmoment => hmoment
  exact (hkept.1 moment hmoment).of_contains hcontains

/-- All texts that a program ever holds keep to the limit, if those do that it starts from and those
that it builds without a check, of which there are none if it calls nothing that builds texts so. An
operation with a check fails where its text would be too long: it ends the run, or leaves all
components as they are. -/
theorem texts_limited (threshold : Option Nat) {source : String} {statements : List Statement}
    {files : FileSystem} (run : RunId) (clock : Nat) (readings : List Nat) {called : List String}
    (hsource : Text.Fits source) (hfiles : files.Fits) (hstatements : BlockFits called statements) :
    (let passed := moments { threshold := threshold } source statements
        (freshContext files run clock readings)
     (BuiltFit called passed → TextsFit passed) ∧
       ((∀ name ∈ called, name ∉ uncheckedMethods) → TextsFit passed)) ∧
    (∀ (settings : Settings) (call : Evaluator.Caller) (span : Span) (left right : Expression)
      (machine between after : Machine) (first second : String),
      Evaluator.evaluate settings call left machine = .ok (.text first) between →
      Run.holding (.text first) (Evaluator.evaluate settings call right) between =
        .ok (.text second) after →
      maxTextBytes < first.utf8ByteSize + second.utf8ByteSize →
      Evaluator.evaluate settings call (.binary span .add left right) machine =
        .error (.runtime .textTooLong (some span)) after) ∧
    ∀ (heap : Heap) (catalog : NodeCatalog) (this : Handle) (value method added : String)
      (rest : List Value), heap.get? this = some (.text value) →
      Name.key method = "appendstring" → rest.length ≤ 1 →
      maxTextBytes < value.utf8ByteSize + added.utf8ByteSize →
      heap.callMethod catalog this method (.text added :: rest) =
        ⟨.error (.tooLong "appendstring" (value.utf8ByteSize + added.utf8ByteSize)), heap, []⟩ := by
  refine ⟨?_, ?_, ?_⟩
  · intro passed
    have hfits := textsFit_moments threshold run clock readings hsource hfiles hstatements
    exact ⟨hfits, fun hcalled => hfits (.of_checked hcalled passed)⟩
  · intro settings call span left right machine between after first second hleft hright hlong
    exact Evaluator.evaluate_add_of_lt hleft hright hlong
  · intro heap catalog this value method added rest hget hmethod hrest hlong
    exact Heap.callMethod_appendString_of_lt hget hmethod hrest hlong

/-- A text that is put into upper case. -/
theorem texts_limited_in_upper_case :
    let place : Span := ⟨0, 1⟩
    let statements : List Statement := [.expression place
      (.call place (.variable place "UCase") [.literal place (.text "a")])]
    let passed := moments { threshold := some 4096 } defaultSource statements
      (freshContext .standard ⟨0⟩ 0 [])
    BlockFits ["ucase"] statements ∧ BuiltFit ["ucase"] passed ∧ TextsFit passed := by
  intro place statements passed
  have hcalled : Name.key "UCase" ∈ ["ucase"] := by decide +kernel
  have hstatements : BlockFits ["ucase"] statements :=
    ⟨⟨hcalled, trivial, show Text.Fits "a" by decide, trivial⟩, trivial⟩
  have hhands : ∀ moment ∈ passed, ∀ value ∈ moment.inHand,
      value ∈ [Value.text "a", .text "A"] := by decide +kernel
  have hbuilt : BuiltFit ["ucase"] passed := by
    rintro text - ⟨moment, hmoment, hbuilds⟩
    cases hbuilds with
    | method hhand =>
        have hfirst := hhands moment hmoment _ (hhand ▸ List.mem_cons_self)
        simp at hfirst
    | upper _ hhand htext =>
        have hfirst := hhands moment hmoment _ (hhand ▸ List.mem_cons_self)
        rw [← htext]
        rcases List.mem_pair.mp hfirst with hargument | hargument <;> cases hargument <;>
          decide +kernel
    | lower hother => simp at hother
  have hsource : Text.Fits defaultSource := by decide
  have hlimited := texts_limited (some 4096) ⟨0⟩ 0 [] hsource FileSystem.fits_standard hstatements
  exact ⟨hstatements, hbuilt, hlimited.1.1 hbuilt⟩

/-- Out of 4097 letters a text is built that is too long: each letter is replaced by all of them. -/
theorem replace_beyond_limit :
    let place : Span := ⟨0, 1⟩
    let long := String.ofList (List.replicate 4097 'a')
    let created : Expression := .call place (.variable place "CreateObject")
      [.literal place (.text "roString"), .literal place (.text long)]
    let statements : List Statement := [.expression place
      (.call place (.member place created "Replace")
        [.literal place (.text "a"), .literal place (.text long)])]
    let passed := moments {} defaultSource statements (freshContext .standard ⟨0⟩ 0 [])
    BlockFits ["createobject", "replace"] statements ∧ FileSystem.standard.Fits ∧
      Text.Fits defaultSource ∧
      ∃ moment ∈ passed, ∃ text, moment.Contains text ∧ text.utf8ByteSize = 16785409 ∧
        ¬ Text.Fits text := by
  intro place long created statements passed
  have hstart := sound_firstMachine defaultSource .standard ⟨0⟩ 0 []
  have hletter : "a".isEmpty = false := by decide
  obtain ⟨after, hreplaced⟩ := Evaluator.evaluate_replaceText (some 4096)
    (Evaluator.Watch.callFunction {}).run place hstart.wellFormed hletter long long
  rw [← Evaluator.Watch.run_expressions.1] at hreplaced
  set replaced := String.ofList (Text.replaceAll "a".toList long.toList long.toList) with hset
  have hlong : replaced.utf8ByteSize = 16785409 := Text.utf8ByteSize_replaceAll_self 4097
  have hmoment : ⟨after, [.text replaced]⟩ ∈ passed := by
    refine Watched.mem_moments_next rfl (Watched.mem_moments_first ?_)
    rw [Evaluator.Watch.executeProgram]
    exact Watched.mem_moments_next hreplaced (Watched.mem_moments_first List.mem_cons_self)
  refine ⟨?_, FileSystem.fits_standard, by decide, _, hmoment, replaced,
    .inHand (List.mem_singleton_self _), hlong, ?_⟩
  · have hfits : Text.Fits long := by
      refine Text.fits_of_length_le ?_
      rw [String.length_ofList, List.length_replicate]
      decide
    have hcreate : Name.key "CreateObject" ∈ ["createobject", "replace"] := by decide +kernel
    have hreplace : Name.key "Replace" ∈ ["createobject", "replace"] := by decide +kernel
    have hkind : Text.Fits "roString" := by decide
    have hneedle : Text.Fits "a" := by decide
    exact ⟨⟨hreplace, ⟨hcreate, trivial, hkind, hfits, trivial⟩, hneedle, hfits, trivial⟩, trivial⟩
  · rw [Text.Fits, hlong]
    decide

end Launch

end BrightScript
