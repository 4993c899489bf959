import BrightScript.Manifest
import BrightScript.Proofs.SortedMap
import BrightScript.Proofs.Text.Split

namespace BrightScript

/-- The value that a text is read as: `true` and `false` in any letter case are booleans. -/
def ManifestValue.ofText (text : String) : ManifestValue :=
  match boolOfText? text with
  | some flag => .bool flag
  | none => .text text

namespace Manifest

/-- The entries that the lines of a text give, one after the other. -/
def written (text : String) : List (String × ManifestValue) :=
  ((Text.lines text.toList).filterMap lineEntry?).map fun entry => (entry.1, .ofText entry.2)

/-- The text that lists the entries of a manifest, one on each line. -/
def render (manifest : Manifest) : String :=
  String.join (manifest.entries.entries.map fun entry =>
    entry.1 ++ "=" ++ entry.2.display ++ "\n")

/-- The manifest with the entries of another one in place of its own. -/
def override (manifest other : Manifest) : Manifest :=
  ⟨manifest.entries.insertMany other.entries.entries⟩

variable {manifest : Manifest} {line key value : List Char} {text : String}

/-- What a line can give as a key. -/
structure IsKey (key : List Char) : Prop where
  trimmed : Text.IsTrimmed key
  oneLine : '\n' ∉ key
  unmarked : '=' ∉ key
  notComment : key.head? ≠ some '#'

/-- What a line can give as a value. -/
structure IsValue (value : List Char) : Prop where
  trimmed : Text.IsTrimmed value
  oneLine : '\n' ∉ value

theorem lineEntry?_congr {other : List Char} (hsame : Text.trimChars line = Text.trimChars other) :
    lineEntry? line = lineEntry? other := by
  unfold lineEntry?
  rw [hsame]

theorem isKey_of_lineEntry? (hline : '\n' ∉ line) {entry : String × String}
    (hentry : lineEntry? line = some entry) :
    IsKey entry.1.toList ∧ IsValue entry.2.toList := by
  unfold lineEntry? at hentry
  dsimp only at hentry
  split at hentry
  · cases hentry
  · next hread =>
      obtain ⟨⟨before, behind⟩, hsplit, rfl⟩ := Option.map_eq_some_iff.mp hentry
      obtain ⟨hmark, hwhole⟩ := Text.splitOnce_eq_some_iff.mp hsplit
      have htrimmed := Text.isTrimmed_trimChars line
      have honeLine : '\n' ∉ Text.trimChars line := fun hmem =>
        hline ((Text.trimChars_sublist line).subset hmem)
      rw [hwhole, List.mem_append, List.mem_cons] at honeLine
      simp only [String.toList_ofList]
      have hkey := Text.trimChars_sublist before
      have hvalue := Text.trimChars_sublist behind
      refine ⟨⟨Text.isTrimmed_trimChars before, fun hmem => ?_, fun hmem => ?_, fun hcomment => ?_⟩,
        ⟨Text.isTrimmed_trimChars behind, fun hmem => ?_⟩⟩
      · exact honeLine (.inl (hkey.subset hmem))
      · exact hmark (hkey.subset hmem)
      · -- the key starts where the line starts, which is no comment
        have hhead : ∀ c ∈ before.head?, Text.isBlank c = false := by
          intro c hc
          refine htrimmed.head c ?_
          rw [hwhole, List.head?_append, hc]
          rfl
        obtain ⟨rest, hrest⟩ := Text.isPrefix_trimChars before
        rw [Text.trimStartChars_of_head hhead] at hrest
        have hfirst : (Text.trimChars line).head? = some '#' := by
          rw [hwhole, ← hrest, List.append_assoc, List.head?_append, hcomment]
          rfl
        rw [hfirst] at hread
        exact hread (Bool.or_eq_true_iff.mpr (.inr rfl))
      · exact honeLine (.inr (.inr (hvalue.subset hmem)))

theorem isTrimmed_line (hkey : IsKey key) (hvalue : IsValue value) :
    Text.IsTrimmed (key ++ '=' :: value) := by
  have hmark : Text.isBlank '=' = false := by decide
  constructor
  case head =>
    cases key with
    | nil =>
        rintro c ⟨⟩
        exact hmark
    | cons first rest => exact hkey.trimmed.head
  case last =>
    rw [List.getLast?_append, List.getLast?_cons]
    cases hlast : value.getLast? with
    | none =>
        rintro c ⟨⟩
        exact hmark
    | some last =>
        rintro c ⟨⟩
        exact hvalue.trimmed.last last hlast

theorem lineEntry?_line (hkey : IsKey key) (hvalue : IsValue value) :
    lineEntry? (key ++ '=' :: value) = some (String.ofList key, String.ofList value) := by
  have hcomment : (key ++ '=' :: value).head? ≠ some '#' := by
    cases key with
    | nil => exact fun hsame => absurd (Option.some.inj hsame) (by decide)
    | cons first rest => exact hkey.notComment
  have hread : ((key ++ '=' :: value).isEmpty ||
      (key ++ '=' :: value).head? == some '#') = false := by
    rw [List.isEmpty_eq_false_iff.mpr (List.append_ne_nil_of_right_ne_nil key (List.cons_ne_nil _ _)),
      Bool.false_or]
    exact beq_eq_false_iff_ne.mpr hcomment
  have hsplit : Text.splitOnce '=' (key ++ '=' :: value) = some (key, value) :=
    Text.splitOnce_eq_some_iff.mpr ⟨hkey.unmarked, rfl⟩
  unfold lineEntry?
  rw [(isTrimmed_line hkey hvalue).trimChars_eq]
  simp only [hread, Bool.false_eq_true, if_false, hsplit, Option.map_some,
    hkey.trimmed.trimChars_eq, hvalue.trimmed.trimChars_eq]

theorem parse_eq (text : String) : parse text = ⟨.ofList (written text)⟩ := by
  have hfold : ∀ (entries : List (String × String)) (manifest : Manifest),
      entries.foldl (fun manifest entry => manifest.set entry.1 entry.2) manifest =
        ⟨manifest.entries.insertMany
          (entries.map fun entry => (entry.1, ManifestValue.ofText entry.2))⟩ := by
    intro entries
    induction entries with
    | nil => exact fun _ => rfl
    | cons entry rest ih => exact fun manifest => ih (manifest.set entry.1 entry.2)
  exact hfold _ empty

theorem written_eq (text : String) : written text =
    ((text.toList.splitOn '\n').filterMap lineEntry?).map
      fun entry => (entry.1, .ofText entry.2) := by
  unfold written
  rw [Text.filterMap_lines rfl fun _ _ => lineEntry?_congr]

theorem written_append (front behind : String) :
    written (front ++ "\n" ++ behind) = written front ++ written behind := by
  have htext : (front ++ "\n" ++ behind).toList = front.toList ++ '\n' :: behind.toList := by
    rw [String.toList_append, String.toList_append, List.append_assoc]
    rfl
  rw [written_eq, written_eq, written_eq, htext, List.splitOn_append_cons_self,
    List.filterMap_append, List.map_append]

/-- A manifest that lists can be read as: its keys ascend, and its keys and values are what lines
can give. -/
structure IsReadable (manifest : Manifest) : Prop where
  ascending : manifest.entries.entries.Pairwise (·.1 < ·.1)
  keys : ∀ entry ∈ manifest.entries.entries, IsKey entry.1.toList
  values : ∀ entry ∈ manifest.entries.entries, IsValue entry.2.display.toList
  kinds : ∀ entry ∈ manifest.entries.entries, ManifestValue.ofText entry.2.display = entry.2

theorem isValue_flag (flag : Bool) : IsValue (ManifestValue.bool flag).display.toList := by
  cases flag with
  | true =>
      change IsValue ['t', 'r', 'u', 'e']
      exact ⟨⟨by rintro c ⟨⟩; decide, by rintro c ⟨⟩; decide⟩, by decide⟩
  | false =>
      change IsValue ['f', 'a', 'l', 's', 'e']
      exact ⟨⟨by rintro c ⟨⟩; decide, by rintro c ⟨⟩; decide⟩, by decide⟩

theorem boolOfText?_display (flag : Bool) :
    boolOfText? (ManifestValue.bool flag).display = some flag := by
  cases flag <;> simp [boolOfText?, ManifestValue.display, Name.key_eq_iff]

theorem isValue_ofText (hvalue : IsValue text.toList) :
    IsValue (ManifestValue.ofText text).display.toList ∧
      ManifestValue.ofText (ManifestValue.ofText text).display = ManifestValue.ofText text := by
  cases hread : boolOfText? text with
  | none =>
      have htext : ManifestValue.ofText text = .text text := by rw [ManifestValue.ofText, hread]
      rw [htext]
      exact ⟨hvalue, htext⟩
  | some flag =>
      have hflag : ManifestValue.ofText text = .bool flag := by rw [ManifestValue.ofText, hread]
      rw [hflag]
      exact ⟨isValue_flag flag, by rw [ManifestValue.ofText, boolOfText?_display]⟩

theorem isReadable_parse (text : String) : (parse text).IsReadable := by
  have hentry : ∀ entry ∈ (parse text).entries.entries, ∃ value, IsKey entry.1.toList ∧
      IsValue value.toList ∧ entry.2 = ManifestValue.ofText value := by
    intro entry hmem
    rw [parse_eq] at hmem
    have hwritten := SortedMap.mem_of_mem_ofList hmem
    rw [written_eq, List.mem_map] at hwritten
    obtain ⟨⟨key, value⟩, hread, rfl⟩ := hwritten
    obtain ⟨line, hline, hlineEntry⟩ := List.mem_filterMap.mp hread
    obtain ⟨hkey, hvalue⟩ :=
      isKey_of_lineEntry? (Text.not_mem_of_mem_splitOn hline) hlineEntry
    exact ⟨value, hkey, hvalue, rfl⟩
  constructor
  case ascending =>
    rw [parse_eq]
    exact SortedMap.pairwise_ofList (written text)
  case keys =>
    intro entry hmem
    obtain ⟨value, hkey, -⟩ := hentry entry hmem
    exact hkey
  case values =>
    intro entry hmem
    obtain ⟨value, -, hvalue, hentry⟩ := hentry entry hmem
    rw [hentry]
    exact (isValue_ofText hvalue).1
  case kinds =>
    intro entry hmem
    obtain ⟨value, -, hvalue, hentry⟩ := hentry entry hmem
    rw [hentry]
    exact (isValue_ofText hvalue).2

theorem toList_render (manifest : Manifest) : manifest.render.toList =
    (manifest.entries.entries.map fun entry =>
      entry.1.toList ++ '=' :: entry.2.display.toList).flatMap (· ++ ['\n']) := by
  simp [render, String.toList_join, List.flatMap_map]

theorem written_render (hmanifest : manifest.IsReadable) :
    written manifest.render = manifest.entries.entries := by
  have hlines : ∀ line ∈ manifest.entries.entries.map fun entry =>
      entry.1.toList ++ '=' :: entry.2.display.toList, '\n' ∉ line := by
    refine List.forall_mem_map.mpr fun entry hentry => ?_
    rw [List.mem_append, List.mem_cons, not_or, not_or]
    exact ⟨(hmanifest.keys entry hentry).oneLine, by decide,
      (hmanifest.values entry hentry).oneLine⟩
  have hread : ∀ entry ∈ manifest.entries.entries,
      lineEntry? (entry.1.toList ++ '=' :: entry.2.display.toList) =
        some (entry.1, entry.2.display) := by
    intro entry hentry
    rw [lineEntry?_line (hmanifest.keys entry hentry) (hmanifest.values entry hentry),
      String.ofList_toList, String.ofList_toList]
  have hentries : (manifest.entries.entries.map fun entry =>
      entry.1.toList ++ '=' :: entry.2.display.toList).filterMap lineEntry? =
        manifest.entries.entries.map fun entry => (entry.1, entry.2.display) := by
    rw [List.filterMap_map, ← List.filterMap_eq_map]
    exact List.filterMap_congr hread
  have hkinds : (manifest.entries.entries.map fun entry => (entry.1, entry.2.display)).map
      (fun entry => (entry.1, ManifestValue.ofText entry.2)) = manifest.entries.entries := by
    rw [List.map_map]
    conv_rhs => rw [← List.map_id manifest.entries.entries]
    refine List.map_congr_left fun entry hentry => ?_
    exact congrArg (Prod.mk entry.1) (hmanifest.kinds entry hentry)
  rw [written_eq, toList_render, Text.splitOn_flatMap_concat hlines, List.filterMap_append, hentries,
    List.filterMap_cons_none rfl, List.filterMap_nil, List.append_nil, hkinds]

/-- A manifest that lists can be read as is read back from the text that lists it. -/
theorem parse_render (hmanifest : manifest.IsReadable) : parse manifest.render = manifest := by
  rw [parse_eq, written_render hmanifest, SortedMap.ofList_entries hmanifest.ascending]

theorem exists_parse_eq_iff : (∃ text, parse text = manifest) ↔ manifest.IsReadable := by
  constructor
  · rintro ⟨text, rfl⟩
    exact isReadable_parse text
  · exact fun hmanifest => ⟨manifest.render, parse_render hmanifest⟩

theorem get?_override (manifest : Manifest) {other : Manifest} (hother : other.IsReadable)
    (key : String) : (manifest.override other).get? key = (other.get? key).or (manifest.get? key) := by
  have hentries := SortedMap.get?_insertMany manifest.entries other.entries.entries key
  rwa [SortedMap.ofList_entries hother.ascending] at hentries

theorem parse_append (front behind : String) :
    parse (front ++ "\n" ++ behind) = (parse front).override (parse behind) := by
  rw [parse_eq, parse_eq, parse_eq, written_append]
  refine congrArg Manifest.mk (Eq.trans ?_
    (SortedMap.insertMany_ofList (SortedMap.pairwise_ofList _) _).symm)
  exact SortedMap.insertMany_append .empty (written front) (written behind)

/-- What can be read from texts is what lists can be read as. It is read again from the text that
lists it, and of two texts on different lines the second overrides the first, entry by entry. -/
theorem texts_keep_manifests :
    (∀ manifest, (∃ text, parse text = manifest) ↔ manifest.IsReadable) ∧
    (∀ text, parse (parse text).render = parse text) ∧
    ∀ front behind : String,
      parse (front ++ "\n" ++ behind) = (parse front).override (parse behind) ∧
      ∀ key, (parse (front ++ "\n" ++ behind)).get? key =
        ((parse behind).get? key).or ((parse front).get? key) := by
  refine ⟨fun manifest => exists_parse_eq_iff,
    fun text => parse_render (isReadable_parse text), fun front behind => ?_⟩
  refine ⟨parse_append front behind, fun key => ?_⟩
  rw [parse_append, get?_override _ (isReadable_parse behind)]

end Manifest

end BrightScript
