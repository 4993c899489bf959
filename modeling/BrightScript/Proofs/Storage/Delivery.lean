import BrightScript.Proofs.Storage.Contents
import BrightScript.Proofs.Storage.Growth

namespace BrightScript.Volume

variable {volume grown : Volume} {done rest : List (List Char)}

/-- A path is created by its segments, so every spelling of it gives the same. -/
theorem makeTree_ofSegments (volume : Volume) (path : String) :
    volume.makeTree (String.ofList (Path.ofSegments (Path.segments path.toList))) =
      volume.makeTree path := by
  rw [makeTree, makeTree, String.toList_ofList,
    Path.segments_ofSegments fun _ => Path.isProper_of_mem_segments]

theorem makeTree_eq_ok_iff {path : String} :
    volume.makeTree path = .ok grown ↔
      volume.makeSteps [] (Path.segments path.toList) = (grown, none) := by
  unfold makeTree
  split
  · next larger hmade =>
      rw [hmade, Prod.mk.injEq, Except.ok.injEq]
      exact (and_iff_left rfl).symm
  · next error hfailed =>
      rw [hfailed, Prod.mk.injEq]
      exact iff_of_false nofun nofun

theorem makeSteps_of_stored (hdone : ∀ segment ∈ done, Path.IsProper segment)
    (hrest : ∀ segment ∈ rest, Path.IsProper segment)
    (hstored : ∀ front, front <+: rest → front ≠ [] →
      volume.Stores (String.ofList (Path.ofSegments (done ++ front)))) :
    volume.makeSteps (Path.through done) rest = (volume, none) := by
  induction rest generalizing done with
  | nil => rfl
  | cons segment rest ih =>
      obtain ⟨hsegment, hrest⟩ := List.forall_mem_cons.mp hrest
      have hproper := Path.isProper_concat hdone hsegment
      have hhere := hstored [segment] (List.prefix_append [segment] rest) (List.cons_ne_nil _ _)
      rw [makeSteps_cons_of_stores rest hproper hhere]
      refine ih hproper hrest fun front hfront hne => ?_
      rw [← List.append_cons]
      exact hstored _ (List.cons_prefix_cons.mpr ⟨rfl, hfront⟩) (List.cons_ne_nil _ _)

theorem IsTree.makeSteps_of_file (htree : volume.IsTree)
    (hdone : ∀ segment ∈ done, Path.IsProper segment)
    (hrest : ∀ segment ∈ rest, Path.IsProper segment) (hne : rest ≠ [])
    (hfile : volume.files.contains (String.ofList (Path.ofSegments done)) = true) :
    (volume.makeSteps (Path.through done) rest).2 ≠ none := by
  obtain ⟨segment, others, rfl⟩ := List.exists_cons_of_ne_nil hne
  have hsegment := hrest segment List.mem_cons_self
  have hproper := Path.isProper_concat hdone hsegment
  have hcanonical := Path.normalize_ofSegments hproper
  have hnot : ¬ volume.isDirectory (String.ofList (Path.ofSegments done)) = true :=
    fun hdirectory => htree.apart _ ⟨hdirectory, hfile⟩
  have hparent : Path.parent (String.ofList (Path.ofSegments (done ++ [segment]))) =
      String.ofList (Path.ofSegments done) := Path.parent_ofSegments hsegment
  have hroot := mt (Path.ofSegments_eq_root_iff hproper).mp (List.concat_ne_nil segment done)
  rw [Volume.makeSteps, ← Path.through_concat,
    Path.through_eq_ofSegments (List.concat_ne_nil segment done), if_neg]
  · split
    · next made hmade =>
        obtain ⟨-, hdirectory, -⟩ := makeDirectory_eq_ok_iff.mp hmade
        rw [hcanonical, hparent] at hdirectory
        exact absurd hdirectory hnot
    · exact Option.some_ne_none _
  · rw [hasEntry_iff, hcanonical]
    exact fun hstored => hnot (hparent ▸ htree.parent _ hstored hroot)

theorem IsTree.clear_of_makeSteps (htree : volume.IsTree)
    (hdone : ∀ segment ∈ done, Path.IsProper segment)
    (hrest : ∀ segment ∈ rest, Path.IsProper segment)
    (hdirectory : volume.isDirectory (String.ofList (Path.ofSegments done)) = true)
    (hmade : volume.makeSteps (Path.through done) rest = (grown, none)) {front : List (List Char)}
    (hfront : front <+: rest) (hne : front ≠ rest) :
    volume.files.contains (String.ofList (Path.ofSegments (done ++ front))) = false := by
  induction rest generalizing volume done front with
  | nil => exact absurd (List.prefix_nil.mp hfront) hne
  | cons segment rest ih =>
      rcases List.prefix_cons_iff.mp hfront with rfl | ⟨inner, rfl, hinner⟩
      · rw [List.append_nil, ← Bool.not_eq_true]
        exact fun hfile => htree.apart _ ⟨hdirectory, hfile⟩
      obtain ⟨hsegment, hrest⟩ := List.forall_mem_cons.mp hrest
      have hproper := Path.isProper_concat hdone hsegment
      have hinnerNe : inner ≠ rest := fun hsame => hne (by rw [hsame])
      cases hhere : volume.files.contains
          (String.ofList (Path.ofSegments (done ++ [segment]))) with
      | true =>
          -- Behind the file there is another step, which is refused.
          have hmore : rest ≠ [] := by
            rintro rfl
            exact hinnerNe (List.prefix_nil.mp hinner)
          rw [makeSteps_cons_of_stores rest hproper (.inr hhere)] at hmade
          refine absurd ?_ (htree.makeSteps_of_file hproper hrest hmore hhere)
          rw [hmade]
      | false =>
          obtain ⟨larger, hstep, hlarger, hgains⟩ :=
            htree.makeSteps_cons_of_clear rest hproper hdirectory hhere
          rw [hstep] at hmade
          rw [List.append_cons, ← hgains.files_eq]
          exact ih hlarger hproper hrest ((hgains.isDirectory_iff _).mpr (.inr rfl)) hmade hinner
            hinnerNe

/-- What is there once a path was created. -/
structure Delivers (before : Volume) (path : String) (after : Volume) : Prop where
  here : after.isDirectory (Path.normalize path) = !before.files.contains (Path.normalize path)
  above : ∀ directory ∈ Path.ancestors path, after.isDirectory directory = true
  kept : ∀ directory, before.isDirectory directory = true → after.isDirectory directory = true
  only : ∀ directory, after.isDirectory directory = true →
    before.isDirectory directory = true ∨ directory = Path.normalize path ∨
      directory ∈ Path.ancestors path
  files_eq : after.files = before.files
  writable : before.files.contains (Path.normalize path) = false → ∀ segment contents,
    Path.IsProper segment →
      after.isDirectory
        (String.ofList (Path.ofSegments (Path.segments path.toList ++ [segment]))) = false →
      ∃ written, after.write
        (String.ofList (Path.ofSegments (Path.segments path.toList ++ [segment]))) contents =
          .ok written
  again : after.makeTree path = .ok after

theorem exists_write_below {done : List (List Char)} {segment : List Char} {contents : ByteArray}
    (hdone : ∀ segment ∈ done, Path.IsProper segment) (hsegment : Path.IsProper segment)
    (hdirectory : volume.isDirectory (String.ofList (Path.ofSegments done)) = true)
    (hfree : volume.isDirectory (String.ofList (Path.ofSegments (done ++ [segment]))) = false) :
    ∃ written, volume.write (String.ofList (Path.ofSegments (done ++ [segment]))) contents =
      .ok written := by
  have hproper := Path.isProper_concat hdone hsegment
  rw [exists_write_iff, Path.normalize_ofSegments hproper, Path.parent_ofSegments hsegment]
  exact ⟨hfree, hdirectory⟩

/-- A file may be in the place of the last directory. Then everything was there before. -/
theorem IsTree.delivers_of_file (htree : volume.IsTree) {path : String} (hpath : path ≠ "")
    (hfile : volume.files.contains (Path.normalize path) = true)
    (hmade : volume.makeTree path = .ok grown) : volume.Delivers path grown := by
  have hproper : ∀ segment ∈ Path.segments path.toList, Path.IsProper segment :=
    fun _ => Path.isProper_of_mem_segments
  have hcanonical := Path.normalize_eq_ofSegments hpath
  have hstored : volume.Stores (Path.normalize path) := .inr hfile
  rw [hcanonical] at hstored
  have habove : ∀ directory ∈ Path.ancestors path, volume.isDirectory directory = true := by
    intro directory hdirectory
    refine htree.isDirectory_of_mem_ancestors hproper hstored ?_
    rw [Path.mem_ancestors_ofSegments_iff hproper]
    exact Path.mem_ancestors_iff.mp hdirectory
  have hsteps : volume.makeSteps (Path.through []) (Path.segments path.toList) =
      (volume, none) := by
    refine makeSteps_of_stored (List.forall_mem_nil _) hproper fun front hfront _ => ?_
    by_cases hwhole : front = Path.segments path.toList
    · rwa [hwhole]
    · exact .inl (habove _ (Path.mem_ancestors_iff.mpr ⟨front, hfront, hwhole, rfl⟩))
  have hsame : volume.makeTree path = .ok volume := makeTree_eq_ok_iff.mpr hsteps
  obtain rfl : volume = grown := Except.ok.inj (hsame.symm.trans hmade)
  constructor
  case here =>
    rw [hfile, Bool.not_true, ← Bool.not_eq_true]
    exact fun hdirectory => htree.apart _ ⟨hdirectory, hfile⟩
  case above => exact habove
  case kept => exact fun _ => id
  case only => exact fun _ => .inl
  case files_eq => rfl
  case writable =>
    intro hclear
    exact absurd (hclear.symm.trans hfile) Bool.false_ne_true
  case again => exact hmade

theorem IsTree.delivers_of_clear (htree : volume.IsTree) {path : String} (hpath : path ≠ "")
    (hclear : volume.files.contains (Path.normalize path) = false)
    (hmade : volume.makeTree path = .ok grown) : volume.Delivers path grown := by
  have hproper : ∀ segment ∈ Path.segments path.toList, Path.IsProper segment :=
    fun _ => Path.isProper_of_mem_segments
  have hcanonical := Path.normalize_eq_ofSegments hpath
  have hfree : ∀ front, front <+: Path.segments path.toList →
      volume.files.contains (String.ofList (Path.ofSegments front)) = false := by
    intro front hfront
    by_cases hwhole : front = Path.segments path.toList
    · rwa [hwhole, ← hcanonical]
    · exact htree.clear_of_makeSteps (List.forall_mem_nil _) hproper htree.root
        (makeTree_eq_ok_iff.mp hmade) hfront hwhole
  obtain ⟨larger, hlarger, -, hgains⟩ := htree.makeTree_of_clear hproper hfree
  rw [makeTree_ofSegments] at hlarger
  obtain rfl : grown = larger := Except.ok.inj (hmade.symm.trans hlarger)
  have hthere : ∀ front, front <+: Path.segments path.toList →
      grown.isDirectory (String.ofList (Path.ofSegments front)) = true :=
    fun front hfront => (hgains.isDirectory_iff _).mpr (.inr ⟨front, hfront, rfl⟩)
  constructor
  case here =>
    rw [hclear, Bool.not_false, hcanonical]
    exact hthere _ List.prefix_rfl
  case above =>
    intro directory hdirectory
    obtain ⟨front, hfront, -, rfl⟩ := Path.mem_ancestors_iff.mp hdirectory
    exact hthere front hfront
  case kept => exact fun directory hdirectory => (hgains.isDirectory_iff _).mpr (.inl hdirectory)
  case only =>
    intro directory hdirectory
    refine ((hgains.isDirectory_iff _).mp hdirectory).imp_right ?_
    rintro ⟨front, hfront, rfl⟩
    by_cases hwhole : front = Path.segments path.toList
    · exact .inl (by rw [hwhole, hcanonical])
    · exact .inr (Path.mem_ancestors_iff.mpr ⟨front, hfront, hwhole, rfl⟩)
  case files_eq => exact hgains.files_eq
  case writable =>
    intro _ segment contents hsegment hfree
    exact exists_write_below hproper hsegment (hthere _ List.prefix_rfl) hfree
  case again =>
    refine makeTree_eq_ok_iff.mpr ?_
    exact makeSteps_of_stored (List.forall_mem_nil _) hproper fun front hfront _ =>
      .inl (hthere front hfront)

/-- Where a path is created on a volume that requests led to, every directory above it is there
afterwards, and the path itself unless it is a file. No directory is lost, no other one is new, no
file changes, and creating the path again changes nothing. -/
theorem makeTree_delivers (requests : List Request) {path : String} (hpath : path ≠ "")
    {grown : Volume} (hmade : (empty.serveAll requests).makeTree path = .ok grown) :
    (empty.serveAll requests).Delivers path grown := by
  have htree := isTree_empty.serveAll requests
  cases hfile : (empty.serveAll requests).files.contains (Path.normalize path) with
  | true => exact htree.delivers_of_file hpath hfile hmade
  | false => exact htree.delivers_of_clear hpath hfile hmade

theorem makeTree_delivers_nested :
    (empty.serveAll []).Delivers "/a/b" ⟨["/a/b", "/a", "/"], .empty⟩ :=
  makeTree_delivers [] (by decide) (by rfl)

/-- Where a file has the path, the creation succeeds and the path is no directory. -/
theorem makeTree_onto_file :
    let volume := empty.serveAll [.write "/f" .empty]
    volume.makeTree "/f" = .ok volume ∧ volume.isDirectory (Path.normalize "/f") = false := by
  constructor <;> rfl

end BrightScript.Volume
