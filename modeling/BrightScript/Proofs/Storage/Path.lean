import BrightScript.Proofs.Text.Split
import BrightScript.Storage.Path

namespace BrightScript.Path

/-- A segment that leads to an entry of a directory. -/
structure IsProper (segment : List Char) : Prop where
  single : '/' ∉ segment
  ne_empty : segment ≠ []
  ne_here : segment ≠ ['.']
  ne_above : segment ≠ ['.', '.']

theorem isProper_concat {front : List (List Char)} {segment : List Char}
    (hfront : ∀ step ∈ front, IsProper step) (hsegment : IsProper segment) :
    ∀ step ∈ front ++ [segment], IsProper step :=
  List.forall_mem_append.mpr ⟨hfront, List.forall_mem_singleton.mpr hsegment⟩

theorem isProper_follow {stack : List (List Char)} {segment : List Char}
    (hstack : ∀ proper ∈ stack, IsProper proper) (hsegment : '/' ∉ segment) :
    ∀ proper ∈ follow stack segment, IsProper proper := by
  unfold follow
  split
  · exact hstack
  · next hstays =>
      rw [not_or] at hstays
      split
      · exact fun proper hproper => hstack proper (List.mem_of_mem_tail hproper)
      · next habove =>
          exact List.forall_mem_cons.mpr ⟨⟨hsegment, hstays.1, hstays.2, habove⟩, hstack⟩

theorem isProper_of_mem_segments {path segment : List Char} (h : segment ∈ segments path) :
    IsProper segment := by
  have hfold : ∀ (pieces stack : List (List Char)), (∀ piece ∈ pieces, '/' ∉ piece) →
      (∀ proper ∈ stack, IsProper proper) →
        ∀ proper ∈ pieces.foldl follow stack, IsProper proper := by
    intro pieces
    induction pieces with
    | nil => exact fun stack _ hstack => hstack
    | cons piece others ih =>
        intro stack hpieces hstack
        rw [List.forall_mem_cons] at hpieces
        exact ih (follow stack piece) hpieces.2 (isProper_follow hstack hpieces.1)
  exact hfold _ [] (fun _ => Text.not_mem_of_mem_splitOn) (List.forall_mem_nil _) segment
    (List.mem_reverse.mp h)

theorem follow_of_isProper (stack : List (List Char)) {segment : List Char} (h : IsProper segment) :
    follow stack segment = segment :: stack := by
  rw [follow, if_neg (not_or.mpr ⟨h.ne_empty, h.ne_here⟩), if_neg h.ne_above]

theorem foldl_follow_of_isProper {path : List (List Char)} (stack : List (List Char))
    (h : ∀ segment ∈ path, IsProper segment) :
    path.foldl follow stack = path.reverse ++ stack := by
  induction path generalizing stack with
  | nil => rfl
  | cons segment rest ih =>
      rw [List.forall_mem_cons] at h
      rw [List.foldl_cons, follow_of_isProper stack h.1, ih _ h.2, List.reverse_cons,
        List.append_assoc, List.singleton_append]

theorem segments_ofSegments {path : List (List Char)} (h : ∀ segment ∈ path, IsProper segment) :
    segments (ofSegments path) = path := by
  unfold segments ofSegments
  rw [List.splitOn_cons_eq_if_modifyHead, if_pos (beq_self_eq_true _), List.foldl_cons]
  change (List.foldl follow [] _).reverse = path
  by_cases hempty : path = []
  · rw [hempty]
    rfl
  · rw [List.splitOn_intercalate '/' (fun segment hsegment => (h segment hsegment).single) hempty,
      foldl_follow_of_isProper [] h, List.append_nil, List.reverse_reverse]

theorem normalizeChars_ofSegments {path : List (List Char)}
    (h : ∀ segment ∈ path, IsProper segment) :
    normalizeChars (ofSegments path) = ofSegments path := by
  have hrooted : ofSegments path ≠ [] := List.cons_ne_nil _ _
  rw [normalizeChars, if_neg hrooted, segments_ofSegments h]

theorem normalize_ofSegments {path : List (List Char)} (h : ∀ segment ∈ path, IsProper segment) :
    normalize (String.ofList (ofSegments path)) = String.ofList (ofSegments path) := by
  rw [normalize, String.toList_ofList, normalizeChars_ofSegments h]

theorem normalizeChars_normalizeChars (path : List Char) :
    normalizeChars (normalizeChars path) = normalizeChars path := by
  by_cases hempty : path = []
  · rw [hempty]
    rfl
  · have hpath : normalizeChars path = ofSegments (segments path) := if_neg hempty
    rw [hpath]
    exact normalizeChars_ofSegments fun _ => isProper_of_mem_segments

theorem normalize_eq_ofSegments {path : String} (hne : path ≠ "") :
    normalize path = String.ofList (ofSegments (segments path.toList)) := by
  have hchars : path.toList ≠ [] := fun hempty => hne (String.toList_eq_nil_iff.mp hempty)
  rw [normalize, normalizeChars, if_neg hchars]

theorem normalize_normalize (path : String) : normalize (normalize path) = normalize path := by
  rw [normalize, normalize, String.toList_ofList, normalizeChars_normalizeChars]

/-- The path through given segments, without the separator in front that stands for the root where
there is none. -/
def through (path : List (List Char)) : List Char := path.flatMap ('/' :: ·)

theorem through_concat (path : List (List Char)) (segment : List Char) :
    through (path ++ [segment]) = through path ++ '/' :: segment := by
  rw [through, List.flatMap_append, List.flatMap_singleton]
  rfl

theorem through_eq_ofSegments {path : List (List Char)} (h : path ≠ []) :
    through path = ofSegments path := by
  induction path with
  | nil => exact absurd rfl h
  | cons segment rest ih =>
      cases rest with
      | nil => simp [through, ofSegments, List.intercalate]
      | cons next others =>
          rw [through, List.flatMap_cons]
          change '/' :: segment ++ through (next :: others) = _
          rw [ih (List.cons_ne_nil _ _)]
          simp [ofSegments, List.intercalate]

theorem normalize_through {path : List (List Char)} (h : ∀ segment ∈ path, IsProper segment)
    (hne : path ≠ []) :
    normalize (String.ofList (through path)) = String.ofList (through path) := by
  rw [through_eq_ofSegments hne, normalize_ofSegments h]

theorem parent_append (directory : List Char) {segment : List Char} (h : '/' ∉ segment) :
    parent (String.ofList (directory ++ '/' :: segment)) =
      if directory = [] then "/" else String.ofList directory := by
  have hdrop : (directory ++ '/' :: segment).reverse.dropWhile (· != '/') =
      '/' :: directory.reverse := by
    rw [List.reverse_append, List.reverse_cons, List.append_assoc,
      List.dropWhile_append_of_pos, List.singleton_append, List.dropWhile_cons_of_neg (by simp)]
    intro c hc
    have hother : c ≠ '/' := fun hsame => h (hsame ▸ List.mem_reverse.mp hc)
    exact bne_iff_ne.mpr hother
  unfold parent parentChars
  rw [String.toList_ofList, hdrop]
  cases hdirectory : directory.reverse with
  | nil =>
      rw [if_pos (List.reverse_eq_nil_iff.mp hdirectory)]
  | cons c rest =>
      have hne : directory ≠ [] := by
        rintro rfl
        cases hdirectory
      rw [if_neg hne]
      change String.ofList (c :: rest).reverse = _
      rw [← hdirectory, List.reverse_reverse]

theorem parent_ofSegments {front : List (List Char)} {segment : List Char}
    (hsegment : IsProper segment) :
    parent (String.ofList (ofSegments (front ++ [segment]))) =
      String.ofList (ofSegments front) := by
  rw [← through_eq_ofSegments (List.concat_ne_nil _ _), through_concat,
    parent_append _ hsegment.single]
  by_cases hfront : front = []
  · rw [hfront]
    rfl
  · have hthrough : through front ≠ [] := by
      rw [through_eq_ofSegments hfront]
      exact List.cons_ne_nil _ _
    rw [if_neg hthrough, through_eq_ofSegments hfront]

theorem ofSegments_eq_root_iff {path : List (List Char)} (h : ∀ segment ∈ path, IsProper segment) :
    String.ofList (ofSegments path) = "/" ↔ path = [] := by
  constructor
  · intro hroot
    have hsegments := congrArg (fun path => segments path.toList) hroot
    rw [String.toList_ofList, segments_ofSegments h] at hsegments
    exact hsegments
  · rintro rfl
    rfl

/-- The directories above a path, the root first. -/
def ancestors (path : String) : List String :=
  (List.range (segments path.toList).length).map fun depth =>
    String.ofList (ofSegments ((segments path.toList).take depth))

theorem mem_ancestors_iff {above path : String} : above ∈ ancestors path ↔
    ∃ front, front <+: segments path.toList ∧ front ≠ segments path.toList ∧
      above = String.ofList (ofSegments front) := by
  unfold ancestors
  simp only [List.mem_map, List.mem_range]
  constructor
  · rintro ⟨depth, hdepth, rfl⟩
    refine ⟨_, List.take_prefix depth _, fun hsame => ?_, rfl⟩
    have hlength := congrArg List.length hsame
    rw [List.length_take] at hlength
    omega
  · rintro ⟨front, hfront, hne, rfl⟩
    refine ⟨front.length, ?_, by rw [← List.prefix_iff_eq_take.mp hfront]⟩
    have hle := hfront.length_le
    have hlength := mt hfront.eq_of_length hne
    omega

theorem mem_ancestors_ofSegments_iff {above : String} {path : List (List Char)}
    (hpath : ∀ segment ∈ path, IsProper segment) :
    above ∈ ancestors (String.ofList (ofSegments path)) ↔
      ∃ front, front <+: path ∧ front ≠ path ∧ above = String.ofList (ofSegments front) := by
  rw [mem_ancestors_iff, String.toList_ofList, segments_ofSegments hpath]

theorem mem_ancestors_concat_iff {above : String} {front : List (List Char)} {segment : List Char}
    (hproper : ∀ step ∈ front ++ [segment], IsProper step) :
    above ∈ ancestors (String.ofList (ofSegments (front ++ [segment]))) ↔
      ∃ inner, inner <+: front ∧ above = String.ofList (ofSegments inner) := by
  rw [mem_ancestors_ofSegments_iff hproper]
  constructor
  · rintro ⟨inner, hinner, hne, rfl⟩
    exact ⟨inner, (List.prefix_concat_iff.mp hinner).resolve_left hne, rfl⟩
  · rintro ⟨inner, hinner, rfl⟩
    refine ⟨inner, hinner.trans (List.prefix_append _ _), fun hsame => ?_, rfl⟩
    have hlength := hinner.length_le
    rw [hsame, List.length_append, List.length_singleton] at hlength
    omega

theorem not_mem_ancestors_self (path : String) : path ∉ ancestors path := by
  rw [mem_ancestors_iff]
  rintro ⟨front, hfront, hne, hpath⟩
  have hproper : ∀ segment ∈ front, IsProper segment :=
    fun _ hsegment => isProper_of_mem_segments (hfront.subset hsegment)
  rw [hpath, String.toList_ofList, segments_ofSegments hproper] at hne
  exact hne rfl

theorem exists_ofSegments {path : String} (hcanonical : normalize path = path) (hne : path ≠ "")
    (hroot : path ≠ "/") : ∃ front segment, (∀ proper ∈ front, IsProper proper) ∧
      IsProper segment ∧ path = String.ofList (ofSegments (front ++ [segment])) := by
  rw [normalize_eq_ofSegments hne] at hcanonical
  have hproper : ∀ segment ∈ segments path.toList, IsProper segment :=
    fun _ => isProper_of_mem_segments
  rcases List.eq_nil_or_concat (segments path.toList) with hnil | ⟨front, segment, hconcat⟩
  · rw [hnil] at hcanonical
    exact absurd hcanonical.symm hroot
  · rw [List.concat_eq_append] at hconcat
    rw [hconcat] at hcanonical hproper
    rw [List.forall_mem_append, List.forall_mem_singleton] at hproper
    exact ⟨front, segment, hproper.1, hproper.2, hcanonical.symm⟩

theorem segments_append (path behind : List Char) : segments (path ++ '/' :: behind) =
    ((behind.splitOn '/').foldl follow (segments path).reverse).reverse := by
  unfold segments
  rw [List.splitOn_append_cons_self, List.foldl_append, List.reverse_reverse]

theorem segments_normalizeChars (path : List Char) :
    segments (normalizeChars path) = segments path := by
  by_cases hempty : path = []
  · rw [hempty]
    rfl
  · rw [normalizeChars, if_neg hempty, segments_ofSegments fun _ => isProper_of_mem_segments]

/-- Only where a path leads to matters for what comes behind it. -/
theorem normalize_append (path behind : String) :
    normalize (path ++ "/" ++ behind) = normalize (normalize path ++ "/" ++ behind) := by
  have hchars : ∀ front : String,
      (front ++ "/" ++ behind).toList = front.toList ++ '/' :: behind.toList := by
    intro front
    rw [String.toList_append, String.toList_append, List.append_assoc]
    rfl
  have hne : ∀ front : List Char, front ++ '/' :: behind.toList ≠ [] := fun front =>
    List.append_ne_nil_of_right_ne_nil front (List.cons_ne_nil _ _)
  rw [normalize, normalize, hchars, hchars, normalize, String.toList_ofList, normalizeChars,
    normalizeChars, if_neg (hne _), if_neg (hne _), segments_append, segments_append,
    segments_normalizeChars]

/-- The canonical path through the given segments; the root where there are none. -/
def rooted (path : List (List Char)) : String :=
  if path = [] then "/" else String.ofList (through path)

theorem rooted_eq (path : List (List Char)) : rooted path = String.ofList (ofSegments path) := by
  unfold rooted
  split
  · next hempty =>
      rw [hempty]
      rfl
  · next hne => rw [through_eq_ofSegments hne]

theorem parent_of_canonical {path : String} (hcanonical : normalize path = path) (hne : path ≠ "")
    (hroot : path ≠ "/") : ∃ front segment, segments path.toList = front ++ [segment] ∧
      path = rooted (front ++ [segment]) ∧ parent path = rooted front ∧
      normalize (parent path) = parent path := by
  obtain ⟨front, segment, hfront, hsegment, rfl⟩ := exists_ofSegments hcanonical hne hroot
  have hproper := isProper_concat hfront hsegment
  rw [parent_ofSegments hsegment, String.toList_ofList, segments_ofSegments hproper]
  exact ⟨front, segment, rfl, (rooted_eq _).symm, (rooted_eq front).symm,
    normalize_ofSegments hfront⟩

/-- The canonical form of a path is rooted and goes through the segments that the path leads through,
which are proper. It is its own canonical form and can stand in for the path in front of another
one, and a canonical path lies below the one without its last segment. -/
theorem normalize_is_canonical :
    normalize "" = "" ∧
    (∀ path ≠ "", (∀ segment ∈ segments path.toList, IsProper segment) ∧
      normalize path = rooted (segments path.toList)) ∧
    (∀ path, normalize (normalize path) = normalize path) ∧
    (∀ path behind : String,
      normalize (path ++ "/" ++ behind) = normalize (normalize path ++ "/" ++ behind)) ∧
    ∀ path, normalize path = path → path ≠ "" → path ≠ "/" →
      ∃ front segment, segments path.toList = front ++ [segment] ∧
        path = rooted (front ++ [segment]) ∧ parent path = rooted front ∧
        normalize (parent path) = parent path := by
  refine ⟨rfl, fun path hne => ?_, normalize_normalize, normalize_append, ?_⟩
  · rw [rooted_eq]
    exact ⟨fun _ => isProper_of_mem_segments, normalize_eq_ofSegments hne⟩
  · exact fun path => parent_of_canonical

/-- A path that climbs above the root, and the directory of the file that it leads to. -/
theorem normalize_is_canonical_of_file :
    (let through := segments "../images//./logo.png".toList
     through = ["images".toList, "logo.png".toList] ∧ (∀ segment ∈ through, IsProper segment) ∧
       normalize "../images//./logo.png" = rooted through) ∧
    ∃ front segment, segments "/images/logo.png".toList = front ++ [segment] ∧
      "/images/logo.png" = rooted (front ++ [segment]) ∧
      parent "/images/logo.png" = rooted front ∧
      normalize (parent "/images/logo.png") = parent "/images/logo.png" := by
  obtain ⟨-, hcanonical, -, -, hparent⟩ := normalize_is_canonical
  exact ⟨⟨by decide, hcanonical _ (by decide)⟩,
    hparent _ (by decide) (by decide) (by decide)⟩

end BrightScript.Path
