import BrightScript.Proofs.Scene.Length

namespace BrightScript

open Procedure

variable {heap : Heap} {this : Handle} {call : Call}

theorem TextMethod.keeps_perform (hcall : call.Fits) :
    Keeps Text.Fits call.Gives (TextMethod.perform call) := by
  unfold TextMethod.perform
  split
  case h_1 | h_2 => exact .check fun _ _ => .bind .get fun text htext => .pure fun _ => htext
  case h_3 =>
    refine .check fun _ _ => .check fun text htext => ?_
    exact .bind (.set (hcall.text htext)) fun _ _ => .pure fun _ => trivial
  case h_4 =>
    refine .check fun _ _ => .check fun added hadded => .getCheck fun text htext _ hroom => ?_
    have hmore := Call.ensureTextBytes_eq_ok_iff.mp hroom
    by_cases hcount : call.arguments.length = 2
    · rw [if_pos hcount]
      refine .check htext fun length _ => ⟨Text.fits_append ?_, fun _ => trivial⟩
      have hpart := Text.utf8ByteSize_ofList_take added length
      omega
    · rw [if_neg hcount]
      exact ⟨Text.fits_append hmore, fun _ => trivial⟩
  case h_6 =>
    refine .check fun _ _ => .check fun length _ => .bind .get fun text htext => .pure fun _ => ?_
    exact htext.of_sublist (List.take_sublist _ _)
  case h_7 =>
    refine .check fun _ _ => .check fun length _ => .bind .get fun text htext => .pure fun _ => ?_
    exact htext.of_sublist (List.drop_sublist _ _)
  case h_8 =>
    refine .check fun _ _ => ?_
    dsimp only
    split
    · rw [bind_map_left]
      refine .check fun limit _ => ?_
      refine .bind .get fun text htext => .check fun start _ => .pure fun _ => ?_
      exact htext.of_sublist ((List.take_sublist _ _).trans (List.drop_sublist _ _))
    · rw [pure_bind]
      refine .bind .get fun text htext => .check fun start _ => .pure fun _ => ?_
      exact htext.of_sublist (List.drop_sublist _ _)
  case h_10 hmethod =>
    refine .check fun _ _ => .check fun needle _ => ?_
    have hunchecked : call.method ∈ uncheckedMethods := by simp [hmethod, uncheckedMethods]
    split
    · exact .bind .get fun text htext => .pure fun _ => htext
    · refine .check fun replacement _ => .bind .get fun text _ => .pure ?_
      exact Call.gives_of_unchecked hunchecked _
  case h_11 => exact .check fun _ _ => .bind .get fun text htext => .pure fun _ => htext.trim
  case h_12 hmethod | h_13 hmethod =>
    have hunchecked : call.method ∈ uncheckedMethods := by simp [hmethod, uncheckedMethods]
    exact .check fun _ _ => .bind .get fun _ _ => .pure (Call.gives_of_unchecked hunchecked _)
  case h_5 | h_16 | h_17 => exact .check fun _ _ => .bind .get fun _ _ => .pure fun _ => trivial
  case h_9 | h_14 | h_15 =>
    exact .check fun _ _ => .check fun _ _ => .bind .get fun _ _ => .pure fun _ => trivial
  case h_18 => exact .throw _

theorem TimespanMethod.keeps_perform (clock : Nat) (call : Call) :
    Keeps (fun _ => True) call.Gives (TimespanMethod.perform clock call) := by
  unfold TimespanMethod.perform
  split
  case h_1 => exact .check fun _ _ => .bind (.set trivial) fun _ _ => .pure fun _ => trivial
  case h_2 | h_3 => exact .check fun _ _ => .bind .get fun _ _ => .pure fun _ => trivial
  case h_4 => exact .throw _

theorem ArrayMethod.fits_of_itemsOf? {items added : Array Value} {other : Handle}
    (hheap : heap.All Component.Fits) (hitems : ∀ value ∈ items.toList, value.Fits)
    (hadded : itemsOf? heap this items other = some added) :
    ∀ value ∈ added.toList, value.Fits := by
  unfold itemsOf? at hadded
  split at hadded
  · exact Option.some.inj hadded ▸ hitems
  · split at hadded
    · next held hget =>
        rw [← Option.some.inj hadded]
        exact Component.fits_array.mp (Heap.all_iff.mp hheap other _ hget)
    · cases hadded

theorem ArrayMethod.fits_filledTo {items : Array Value}
    (hitems : ∀ value ∈ items.toList, value.Fits) (size : Nat) :
    ∀ value ∈ (filledTo items size).toList, value.Fits := by
  rw [filledTo, Array.toList_append, Array.toList_replicate]
  refine List.forall_mem_append.mpr ⟨hitems, fun held hheld => ?_⟩
  rw [List.eq_of_mem_replicate hheld]
  exact trivial

theorem ArrayMethod.fits_setIfInBounds {items : Array Value} {value : Value}
    (hitems : ∀ value ∈ items.toList, value.Fits) (hvalue : value.Fits) (index : Nat) :
    ∀ held ∈ (items.setIfInBounds index value).toList, held.Fits := by
  intro held hheld
  rw [Array.toList_setIfInBounds] at hheld
  rcases List.mem_or_eq_of_mem_set hheld with hheld | rfl
  · exact hitems held hheld
  · exact hvalue

theorem ArrayMethod.keeps_perform (hheap : heap.All Component.Fits) (this : Handle)
    (hcall : call.Fits) :
    Keeps (fun items : Array Value => ∀ value ∈ items.toList, value.Fits) call.Gives
      (ArrayMethod.perform heap this call) := by
  unfold ArrayMethod.perform
  split
  case h_1 =>
    refine .check fun _ _ => .check fun value hvalue => ?_
    refine .bind (.modify fun items hitems => ?_) fun _ _ => .pure fun _ => trivial
    rw [Array.toList_push]
    exact List.forall_mem_append.mpr ⟨hitems, List.forall_mem_singleton.mpr (hcall.value hvalue)⟩
  case h_2 =>
    refine .check fun _ _ => .modifyGet fun items hitems => ⟨?_, fun _ => Value.fits_getD ?_⟩
    · rw [Array.toList_pop]
      exact fun value hvalue => hitems value (List.mem_of_mem_dropLast hvalue)
    · intro value hvalue
      exact hitems value (Array.mem_toList_iff.mpr (Array.mem_of_back? hvalue))
  case h_3 =>
    refine .check fun _ _ => .check fun value hvalue => ?_
    refine .bind (.modify fun items hitems => ?_) fun _ _ => .pure fun _ => trivial
    rw [Array.toList_append]
    exact List.forall_mem_append.mpr ⟨List.forall_mem_singleton.mpr (hcall.value hvalue), hitems⟩
  case h_4 =>
    refine .check fun _ _ => .modifyGet fun items hitems => ⟨?_, fun _ => Value.fits_getD ?_⟩
    · rw [Array.toList_extract, List.extract_eq_take_drop]
      exact fun value hvalue => hitems value (List.mem_of_mem_drop (List.mem_of_mem_take hvalue))
    · intro value hvalue
      exact hitems value (Array.mem_toList_iff.mpr (Array.mem_of_getElem? hvalue))
  case h_5 | h_6 => exact .check fun _ _ => .bind .get fun _ _ => .pure fun _ => trivial
  case h_7 =>
    exact .check fun _ _ => .bind (.set (List.forall_mem_nil _)) fun _ _ => .pure fun _ => trivial
  case h_8 =>
    refine .check fun _ _ => .check fun index _ => .bind .get fun items hitems => .pure fun _ => ?_
    refine Value.fits_getD fun value hvalue => ?_
    obtain ⟨place, -, hat⟩ := Option.bind_eq_some_iff.mp hvalue
    exact hitems value (Array.mem_toList_iff.mpr (Array.mem_of_getElem? hat))
  case h_9 =>
    refine .check fun _ _ => .check fun position _ => ?_
    cases position with
    | none => exact .throw _
    | some index =>
        refine .check fun value hvalue => ?_
        have hset : ∀ items : Array Value, (∀ held ∈ items.toList, held.Fits) →
            ∀ held ∈ (items.setIfInBounds index value).toList, held.Fits := fun items hitems =>
          fits_setIfInBounds hitems (hcall.value hvalue) index
        refine .bind .get fun items _ => ?_
        dsimp only
        split
        · refine .check fun _ _ => .bind (.modify fun items hitems => ?_) fun _ _ => ?_
          · exact fits_filledTo hitems (index + 1)
          · exact .bind (.modify hset) fun _ _ => .pure fun _ => trivial
        · exact .bind (.modify hset) fun _ _ => .pure fun _ => trivial
  case h_10 =>
    refine .check fun _ _ => .bind .get fun items hitems => .check fun other _ => ?_
    split
    · exact .throw _
    · next added hadded =>
        refine .bind .get fun _ _ => .check fun _ _ => ?_
        refine .bind (.modify fun items' hitems' => ?_) fun _ _ => .pure fun _ => trivial
        rw [Array.toList_append]
        exact List.forall_mem_append.mpr ⟨hitems', fits_of_itemsOf? hheap hitems hadded⟩
  case h_11 =>
    refine .check fun _ _ => .bind (.modify fun items hitems => ?_) fun _ _ =>
      .pure fun _ => trivial
    rw [Array.toList_reverse]
    exact fun value hvalue => hitems value (List.mem_reverse.mp hvalue)
  case h_12 hmethod =>
    have hunchecked : call.method ∈ uncheckedMethods := by simp [hmethod, uncheckedMethods]
    refine .check fun _ _ => .check fun separator _ => .bind .get fun _ _ => .pure ?_
    exact Call.gives_of_unchecked hunchecked _
  case h_13 => exact .throw _

theorem ListMethod.keeps_perform (hcall : call.Fits) :
    Keeps (fun items : List Value => ∀ value ∈ items, value.Fits) call.Gives
      (ListMethod.perform call) := by
  unfold ListMethod.perform
  split
  case h_1 | h_2 =>
    refine .check fun _ _ => .check fun value hvalue => ?_
    refine .bind (.modify fun items hitems => ?_) fun _ _ => .pure fun _ => trivial
    exact List.forall_mem_cons.mpr ⟨hcall.value hvalue, hitems⟩
  case h_3 | h_4 =>
    refine .check fun _ _ => .check fun value hvalue => ?_
    refine .bind (.modify fun items hitems => ?_) fun _ _ => .pure fun _ => trivial
    exact List.forall_mem_append.mpr ⟨hitems, List.forall_mem_singleton.mpr (hcall.value hvalue)⟩
  case h_5 | h_6 =>
    refine .check fun _ _ => .modifyGet fun items hitems => ⟨?_, fun _ => Value.fits_getD ?_⟩
    · exact fun value hvalue => hitems value (List.mem_of_mem_tail hvalue)
    · exact fun value hvalue => hitems value (List.mem_of_head? hvalue)
  case h_7 | h_8 =>
    refine .check fun _ _ => .modifyGet fun items hitems => ⟨?_, fun _ => Value.fits_getD ?_⟩
    · exact fun value hvalue => hitems value (List.mem_of_mem_dropLast hvalue)
    · exact fun value hvalue => hitems value (List.mem_of_getLast? hvalue)
  case h_9 =>
    refine .check fun _ _ => .bind .get fun items hitems => .pure fun _ => Value.fits_getD ?_
    exact fun value hvalue => hitems value (List.mem_of_head? hvalue)
  case h_10 =>
    refine .check fun _ _ => .bind .get fun items hitems => .pure fun _ => Value.fits_getD ?_
    exact fun value hvalue => hitems value (List.mem_of_getLast? hvalue)
  case h_11 =>
    refine .check fun _ _ => .check fun index _ => .bind .get fun items hitems => .pure fun _ => ?_
    refine Value.fits_getD fun value hvalue => ?_
    obtain ⟨place, -, hat⟩ := Option.bind_eq_some_iff.mp hvalue
    exact hitems value (List.mem_of_getElem? hat)
  case h_12 | h_13 => exact .check fun _ _ => .bind .get fun _ _ => .pure fun _ => trivial
  case h_14 =>
    exact .check fun _ _ => .bind (.set (List.forall_mem_nil _)) fun _ _ => .pure fun _ => trivial
  case h_15 => exact .throw _

theorem TableMethod.fits_entries (hheap : heap.All Component.Fits)
    {fields : List (String × Value)}
    (hfields : ∀ field ∈ fields, Text.Fits field.1 ∧ field.2.Fits) :
    (entries heap fields).2.All Component.Fits ∧
      ∀ value ∈ (entries heap fields).1, value.Fits := by
  induction fields generalizing heap with
  | nil => exact ⟨hheap, List.forall_mem_nil _⟩
  | cons field rest ih =>
      obtain ⟨⟨hname, hvalue⟩, hrest⟩ := List.forall_mem_cons.mp hfields
      have hkey : Text.Fits "key" := by decide
      have hlabel : Text.Fits "value" := by decide
      have hentry : (entry field.1 field.2).Fits := by
        refine Component.fits_table.mpr (Dictionary.fits_ofList ?_)
        refine List.forall_mem_cons.mpr ⟨⟨hkey, hname⟩, List.forall_mem_singleton.mpr ?_⟩
        exact ⟨hlabel, hvalue⟩
      obtain ⟨hafter, hvalues⟩ := ih (hheap.alloc hentry) hrest
      exact ⟨hafter, List.forall_mem_cons.mpr ⟨trivial, hvalues⟩⟩

theorem TableMethod.keeps_perform (this : Handle) (hcall : call.Fits) :
    Keeps (Sized Dictionary.Fits) call.Gives (TableMethod.perform this call) := by
  unfold TableMethod.perform
  split
  case h_1 =>
    refine .check fun _ _ => .check fun name hname => .check fun value hvalue => ?_
    refine .bind (keeps_modifyOwn fun table htable => ?_) fun _ _ => .pure fun _ => trivial
    exact htable.insert (hcall.text hname) (hcall.value hvalue)
  case h_2 | h_3 =>
    refine .check fun _ _ => .check fun name _ => ?_
    exact .bind keeps_own fun table htable => .pure fun _ => htable.get? name
  case h_4 =>
    refine .check fun _ _ => .check fun name _ => ?_
    exact .bind keeps_own fun _ _ => .pure fun _ => trivial
  case h_5 =>
    refine .check fun _ _ => .check fun name _ => .bind keeps_own fun _ _ => ?_
    refine .bind (keeps_modifyOwn fun table htable => ?_) fun _ _ => .pure fun _ => trivial
    exact htable.erase name
  case h_6 | h_7 => exact .check fun _ _ => .bind keeps_own fun _ _ => .pure fun _ => trivial
  case h_8 =>
    refine .check fun _ _ => .bind (keeps_modifyOwn fun _ _ => ?_) fun _ _ => .pure fun _ => trivial
    exact Dictionary.fits_empty
  case h_9 =>
    refine .check fun _ _ => .bind keeps_own fun table htable => ?_
    refine keeps_make (Component.fits_array.mpr ?_) fun _ _ => trivial
    refine List.forall_mem_map.mpr fun name hname => ?_
    obtain ⟨entry, hentry, rfl⟩ := List.mem_map.mp hname
    exact (htable entry hentry).1
  case h_10 =>
    refine .check fun _ _ => keeps_carryOut fun table heap htable hheap => ?_
    obtain ⟨hafter, hvalues⟩ := fits_entries hheap htable
    exact ⟨htable, hafter.alloc (Component.fits_array.mpr hvalues), fun _ => trivial⟩
  case h_11 =>
    refine .check fun _ _ => .check fun other _ => ?_
    split
    · exact .pure fun _ => trivial
    · refine .bind keeps_heap fun heap hheap => ?_
      split
      · next added hget =>
          have hadded := Component.fits_table.mp (Heap.all_iff.mp hheap other _ hget)
          refine .bind (keeps_modifyOwn fun table htable => ?_) fun _ _ => .pure fun _ => trivial
          exact htable.insertMany hadded
      · exact .throw _
  case h_12 => exact .throw _

theorem RegexMethod.fits_textArray {texts : List String} (htexts : ∀ text ∈ texts, Text.Fits text) :
    (textArray texts).Fits :=
  Component.fits_array.mpr (List.forall_mem_map.mpr htexts)

theorem RegexMethod.fits_textArrays (hheap : heap.All Component.Fits) {lists : List (List String)}
    (hlists : ∀ texts ∈ lists, ∀ text ∈ texts, Text.Fits text) :
    (textArrays heap lists).2.All Component.Fits ∧
      ∀ value ∈ (textArrays heap lists).1, value.Fits := by
  induction lists generalizing heap with
  | nil => exact ⟨hheap, List.forall_mem_nil _⟩
  | cons texts rest ih =>
      obtain ⟨htexts, hrest⟩ := List.forall_mem_cons.mp hlists
      obtain ⟨hafter, hvalues⟩ := ih (hheap.alloc (fits_textArray htexts)) hrest
      exact ⟨hafter, List.forall_mem_cons.mpr ⟨trivial, hvalues⟩⟩

theorem RegexMethod.keeps_perform (hcall : call.Fits) :
    Keeps (Sized fun _ => True) call.Gives (RegexMethod.perform call) := by
  unfold RegexMethod.perform
  split
  case h_1 =>
    refine .check fun _ _ => .check fun text _ => ?_
    exact .bind keeps_own fun _ _ => .pure fun _ => trivial
  case h_2 =>
    refine .check fun _ _ => .check fun text htext => .bind keeps_own fun regex _ => ?_
    refine keeps_make (fits_textArray fun part hpart => ?_) fun _ _ => trivial
    exact Pattern.fits_of_mem_firstMatch (hcall.text htext) hpart
  case h_3 =>
    refine .check fun _ _ => .check fun text htext => keeps_carryOut fun regex heap _ hheap => ?_
    obtain ⟨hafter, hvalues⟩ := fits_textArrays hheap fun parts hparts part hpart =>
      Pattern.fits_of_mem_allMatches (hcall.text htext) hparts hpart
    exact ⟨trivial, hafter.alloc (Component.fits_array.mpr hvalues), fun _ => trivial⟩
  case h_4 hmethod | h_5 hmethod =>
    have hunchecked : call.method ∈ uncheckedMethods := by simp [hmethod, uncheckedMethods]
    refine .check fun _ _ => .check fun text _ => .check fun replacement _ => ?_
    exact .bind keeps_own fun _ _ => .pure (Call.gives_of_unchecked hunchecked _)
  case h_6 =>
    refine .check fun _ _ => .check fun text htext => .bind keeps_own fun regex _ => ?_
    refine keeps_make (fits_textArray fun part hpart => ?_) fun _ _ => trivial
    exact Pattern.fits_of_mem_split (hcall.text htext) hpart
  case h_7 => exact .throw _

theorem ElementMethod.fits_bodyOf? {value : Value} {body : XmlBody} (hvalue : value.Fits)
    (hbody : bodyOf? heap value = some body) : ∀ text ∈ body.texts, Text.Fits text := by
  unfold bodyOf? at hbody
  split at hbody
  · rw [← Option.some.inj hbody]
    exact List.forall_mem_singleton.mpr hvalue
  · rw [← Option.some.inj hbody]
    exact List.forall_mem_nil _
  · split at hbody
    · rw [← Option.some.inj hbody]
      exact List.forall_mem_nil _
    · cases hbody
  · cases hbody

theorem XmlElement.Fits.addChild {element : XmlElement} (helement : element.Fits) (child : Handle) :
    (ElementMethod.addChild element child).Fits :=
  ⟨helement.name, helement.attributes, List.forall_mem_nil _⟩

theorem ElementMethod.keeps_addElement {child : XmlElement} (hchild : child.Fits) :
    Keeps (Sized XmlElement.Fits) call.Gives
      (carryOut fun element heap => addElement heap element child : EStateM MethodError _ _) :=
  keeps_carryOut fun _ _ helement hheap =>
    ⟨helement.addChild _, hheap.alloc (Component.fits_element.mpr hchild), fun _ => trivial⟩

theorem XmlElement.Fits.text {element : XmlElement} (helement : element.Fits) {value : String}
    (hbody : element.body = .text value) : Text.Fits value := by
  have hvalue := helement.body
  rw [hbody] at hvalue
  exact hvalue value (List.mem_singleton_self value)

theorem ElementMethod.keeps_perform (this : Handle) (hcall : call.Fits) :
    Keeps (Sized XmlElement.Fits) call.Gives (ElementMethod.perform this call) := by
  have hshort : Text.Fits "" := by decide
  unfold ElementMethod.perform
  split
  case h_1 =>
    exact .check fun _ _ => .bind keeps_own fun _ helement => .pure fun _ => helement.name
  case h_2 =>
    refine .check fun _ _ => .check fun name hname => ?_
    refine .bind (keeps_modifyOwn fun element helement => ?_) fun _ _ => .pure fun _ => trivial
    exact ⟨hcall.text hname, helement.attributes, helement.body⟩
  case h_3 =>
    refine .check fun _ _ => .check fun name hname => .check fun value hvalue => ?_
    refine .bind (keeps_modifyOwn fun element helement => ?_) fun _ _ => .pure fun _ => trivial
    refine ⟨helement.name, ?_, helement.body⟩
    exact Dictionary.forall_mem_put
      (p := fun entry : String × String => Text.Fits entry.1 ∧ Text.Fits entry.2)
      helement.attributes ⟨hcall.text hname, hcall.text hvalue⟩
      fun _ _ hentry => ⟨hentry.1, hcall.text hvalue⟩
  case h_4 =>
    refine .check fun _ _ => .check fun name _ => ?_
    exact .bind keeps_own fun _ _ => .pure fun _ => trivial
  case h_5 =>
    refine .check fun _ _ => .bind keeps_own fun element helement => ?_
    refine keeps_make (Component.fits_table.mpr (Dictionary.fits_ofList ?_)) fun _ _ => trivial
    exact List.forall_mem_map.mpr helement.attributes
  case h_6 =>
    refine .check fun _ _ => .check fun value hvalue => .bind keeps_heap fun heap _ => ?_
    split
    · next body hbody =>
        refine .bind (keeps_modifyOwn fun element helement => ?_) fun _ _ => .pure fun _ => trivial
        exact ⟨helement.name, helement.attributes, fits_bodyOf? (hcall.value hvalue) hbody⟩
    · exact .throw _
  case h_7 =>
    refine .check fun _ _ => .bind keeps_own fun element helement => ?_
    split
    · exact .pure fun _ => trivial
    · next value hbody => exact .pure fun _ => helement.text hbody
    · exact keeps_make (Component.fits_elementList _) fun _ _ => trivial
  case h_8 =>
    refine .check fun _ _ => .bind keeps_own fun element helement => ?_
    split
    · next value hbody => exact .pure fun _ => helement.text hbody
    · exact .pure fun _ => hshort
  case h_9 =>
    refine .check fun _ _ => .check fun name hname => keeps_addElement ?_
    exact ⟨hcall.text hname, List.forall_mem_nil _, List.forall_mem_nil _⟩
  case h_10 =>
    refine .check fun _ _ => .check fun name hname => .check fun body hbody => keeps_addElement ?_
    have htexts := List.forall_mem_singleton.mpr (hcall.text hbody)
    exact ⟨hcall.text hname, List.forall_mem_nil _, htexts⟩
  case h_11 =>
    refine .check fun _ _ => .bind keeps_own fun element _ => ?_
    split
    · exact keeps_make (Component.fits_elementList _) fun _ _ => trivial
    · exact .pure fun _ => trivial
  case h_12 | h_13 =>
    refine .check fun _ _ => .check fun name _ => ?_
    refine .bind keeps_heap fun heap _ => .bind keeps_own fun element _ => ?_
    exact keeps_make (Component.fits_elementList _) fun _ _ => trivial
  case h_14 hmethod =>
    have hunchecked : call.method ∈ uncheckedMethods := by simp [hmethod, uncheckedMethods]
    have hgives := Call.gives_of_unchecked hunchecked
    refine .check fun _ _ => ?_
    dsimp only
    split
    · rw [pure_bind]
      refine .bind keeps_heap fun heap _ => .bind keeps_own fun element _ => ?_
      split
      · exact .pure (hgives _)
      · exact .throw _
    · refine .check fun withHeader _ => ?_
      refine .bind keeps_heap fun heap _ => .bind keeps_own fun element _ => ?_
      split
      · exact .pure (hgives _)
      · exact .throw _
  case h_15 => exact .throw _

theorem ElementListMethod.keeps_perform (call : Call) :
    Keeps (Sized fun _ => True) call.Gives (ElementListMethod.perform call) := by
  unfold ElementListMethod.perform
  split
  case h_1 | h_2 => exact .check fun _ _ => .bind keeps_own fun _ _ => .pure fun _ => trivial
  case h_3 | h_4 =>
    refine .check fun _ _ => .check fun handle _ => .bind keeps_heap fun heap _ => ?_
    split
    · exact .bind (keeps_modifyOwn fun _ _ => trivial) fun _ _ => .pure fun _ => trivial
    · exact .throw _
  case h_5 | h_6 =>
    refine .check fun _ _ => .bind keeps_own fun _ _ => .pure fun _ => ?_
    exact Value.fits_ofHandle? _
  case h_7 =>
    refine .check fun _ _ => .check fun index _ => .bind keeps_own fun _ _ => .pure fun _ => ?_
    exact Value.fits_ofHandle? _
  case h_8 | h_9 =>
    refine .check fun _ _ => .check fun name _ => ?_
    refine .bind keeps_heap fun heap _ => .bind keeps_own fun elements _ => ?_
    exact keeps_make (Component.fits_elementList _) fun _ _ => trivial
  case h_10 => exact .throw _

/-- What a call says that asks for a text that is too long. -/
def MethodError.tooLong (method : String) (count : Nat) : MethodError :=
  .failed method (toString count ++ " bytes exceeds the limit of " ++ toString maxTextBytes)

theorem Call.ensureTextBytes_of_lt {count : Nat} (hlong : maxTextBytes < count) :
    call.ensureTextBytes count = .error (.tooLong call.method count) :=
  if_pos hlong

theorem TextMethod.call_appendString_of_lt {value added : String} {rest : List Value}
    (hrest : rest.length ≤ 1) (hlong : maxTextBytes < value.utf8ByteSize + added.utf8ByteSize) :
    TextMethod.call value ⟨"appendstring", .text added :: rest⟩ =
      .error (.tooLong "appendstring" (value.utf8ByteSize + added.utf8ByteSize)) := by
  have hcount : Call.expectBetween ⟨"appendstring", .text added :: rest⟩ 1 2 = .ok () := by
    simpa [Call.expectBetween] using hrest
  unfold TextMethod.call perform
  simp only [outcome_check, bind_eq_error_iff]
  refine .inr ⟨(), hcount, .inr ⟨added, rfl, ?_⟩⟩
  simp only [outcome_check, outcome_get, bind_eq_error_iff]
  exact .inl (Call.ensureTextBytes_of_lt hlong)

theorem TextMethod.call_replace {value needle replacement : String}
    (hneedle : needle.isEmpty = false) :
    TextMethod.call value ⟨"replace", [.text needle, .text replacement]⟩ =
      .ok (value, .text (String.ofList
        (Text.replaceAll needle.toList replacement.toList value.toList))) := by
  unfold TextMethod.call perform
  simp only [outcome_check, bind_eq_ok_iff]
  refine ⟨(), rfl, needle, rfl, ?_⟩
  simp only [hneedle]
  rfl

namespace Component

theorem keeps_perform {catalog : NodeCatalog} (hcatalog : catalog.Fits) (this : Handle)
    (hcall : call.Fits) :
    Keeps (Sized Component.Fits) call.Gives (perform catalog this call) := by
  rintro ⟨component, heap, warnings⟩ ⟨hcomponent, hheap⟩
  cases component with
  | array items =>
      have hends := ArrayMethod.keeps_perform hheap this hcall items (fits_array.mp hcomponent)
      exact .leaving hends fun _ hitems => ⟨fits_array.mpr hitems, hheap⟩
  | table entries =>
      have hends := TableMethod.keeps_perform this hcall ⟨entries, heap, warnings⟩
        ⟨fits_table.mp hcomponent, hheap⟩
      exact .leaving hends fun _ hleft => ⟨fits_table.mpr hleft.1, hleft.2⟩
  | list items =>
      have hends := ListMethod.keeps_perform hcall items (fits_list.mp hcomponent)
      exact .leaving hends fun _ hitems => ⟨fits_list.mpr hitems, hheap⟩
  | timespan start =>
      have hends := TimespanMethod.keeps_perform heap.clock call start trivial
      exact .leaving hends fun _ _ => ⟨fits_timespan _, hheap⟩
  | regex data =>
      have hends := RegexMethod.keeps_perform hcall ⟨data, heap, warnings⟩ ⟨trivial, hheap⟩
      exact .leaving hends fun _ hleft => ⟨fits_regex _, hleft.2⟩
  | text value =>
      have hends := TextMethod.keeps_perform hcall value (fits_text.mp hcomponent)
      exact .leaving hends fun _ htext => ⟨fits_text.mpr htext, hheap⟩
  | element data =>
      have hends := ElementMethod.keeps_perform this hcall ⟨data, heap, warnings⟩
        ⟨fits_element.mp hcomponent, hheap⟩
      exact .leaving hends fun _ hleft => ⟨fits_element.mpr hleft.1, hleft.2⟩
  | elementList elements =>
      have hends := ElementListMethod.keeps_perform call ⟨elements, heap, warnings⟩
        ⟨trivial, hheap⟩
      exact .leaving hends fun _ hleft => ⟨fits_elementList _, hleft.2⟩
  | node data =>
      have hends := NodeMethod.keeps_perform hcatalog this hcall ⟨data, heap, warnings⟩
        ⟨fits_node.mp hcomponent, hheap⟩
      exact .leaving hends fun _ hleft => ⟨fits_node.mpr hleft.1, hleft.2⟩
  | host object => exact ⟨hcomponent, hheap⟩

theorem Fits.member {component : Component} (hcomponent : component.Fits) {name : String}
    {value : Value} (hvalue : component.member name = .ok value) : value.Fits := by
  unfold Component.member at hvalue
  split at hvalue
  · rw [← Except.ok.inj hvalue]
    exact (fits_table.mp hcomponent).get? name
  · rw [← Except.ok.inj hvalue]
    exact (fits_node.mp hcomponent).2.get? name
  · rw [← Except.ok.inj hvalue]
    exact (fits_host.mp hcomponent).2.get? name
  · cases hvalue

theorem keeps_writeMember {name : String} {value : Value} (hname : Text.Fits name)
    (hvalue : value.Fits) :
    Keeps Component.Fits (fun _ => True) (writeMember name value) := by
  intro component hcomponent
  unfold writeMember
  split
  · exact ⟨fits_table.mpr ((fits_table.mp hcomponent).insert hname hvalue), trivial⟩
  · exact ⟨fits_node.mpr ((fits_node.mp hcomponent).setField hname hvalue), trivial⟩
  · have hobject := fits_host.mp hcomponent
    exact ⟨fits_host.mpr ⟨hobject.1, hobject.2.insert hname.key hvalue⟩, trivial⟩
  · exact hcomponent

end Component

namespace Heap

variable {catalog : NodeCatalog} {method name : String} {arguments : List Value} {value : Value}

theorem fits_callMethod (hheap : heap.All Component.Fits) (hcatalog : catalog.Fits)
    (this : Handle) (method : String) (harguments : ∀ argument ∈ arguments, argument.Fits) :
    (heap.callMethod catalog this method arguments).heap.All Component.Fits ∧
      ∀ value, (heap.callMethod catalog this method arguments).result = .ok value →
        Name.key method ∉ uncheckedMethods → value.Fits := by
  unfold Heap.callMethod Heap.take?
  cases hget : heap.get? this with
  | none => exact ⟨hheap, fun value hvalue => nomatch hvalue⟩
  | some component =>
      have hcall : Call.Fits ⟨Name.key method, arguments⟩ := harguments
      have hends := Component.keeps_perform hcatalog this hcall
        ⟨component, heap.lend this, []⟩ ⟨all_iff.mp hheap this component hget, hheap.lend this⟩
      dsimp only
      revert hends
      cases Component.perform catalog this ⟨Name.key method, arguments⟩
        ⟨component, heap.lend this, []⟩ with
      | ok value after =>
          intro hends
          refine ⟨hends.1.2.restore this hends.1.1, fun other hother hchecked => ?_⟩
          rw [← Except.ok.inj hother]
          exact hends.2 hchecked
      | error e after =>
          exact fun hends => ⟨hends.2.restore this hends.1, fun _ hvalue => nomatch hvalue⟩

theorem fits_getMember (hheap : heap.All Component.Fits)
    (hvalue : heap.getMember this name = .ok value) : value.Fits := by
  unfold Heap.getMember at hvalue
  split at hvalue
  · next component hget => exact (all_iff.mp hheap this component hget).member hvalue
  · cases hvalue

theorem all_writeMember (hheap : heap.All Component.Fits) (hname : Text.Fits name)
    (hvalue : value.Fits) : (heap.writeMember this name value).2.All Component.Fits := by
  unfold Heap.writeMember
  split
  · exact hheap
  · next component hget =>
      have hends := Component.keeps_writeMember hname hvalue component
        (all_iff.mp hheap this component hget)
      revert hends
      cases Component.writeMember name value component with
      | ok _ after => exact fun hends => hheap.set this hends.1
      | error e after => exact fun hends => hheap.set this hends

theorem callMethod_appendString_of_lt {value added : String} {rest : List Value}
    (hget : heap.get? this = some (.text value)) (hmethod : Name.key method = "appendstring")
    (hrest : rest.length ≤ 1) (hlong : maxTextBytes < value.utf8ByteSize + added.utf8ByteSize) :
    heap.callMethod catalog this method (.text added :: rest) =
      ⟨.error (.tooLong "appendstring" (value.utf8ByteSize + added.utf8ByteSize)), heap, []⟩ := by
  refine callMethod_of_error hget ?_
  rw [Component.call_text, hmethod, TextMethod.call_appendString_of_lt hrest hlong]
  rfl

end Heap

end BrightScript
