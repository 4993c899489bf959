import BrightScript.Proofs.Storage.Path
import BrightScript.Storage.Volume

/-!
A volume is a tree: its directories and files stand under canonical paths, each in a directory of
the volume, up to the root. No request changes that, whether it is carried out or refused.
-/

namespace BrightScript.Volume

/-- A directory or a file has this path. -/
def Stores (volume : Volume) (path : String) : Prop :=
  volume.isDirectory path = true ∨ volume.files.contains path = true

/-- The directories and files of a volume are a tree. -/
structure IsTree (volume : Volume) : Prop where
  root : volume.isDirectory "/" = true
  apart : ∀ path, ¬(volume.isDirectory path = true ∧ volume.files.contains path = true)
  canonical : ∀ path, volume.Stores path → Path.normalize path = path
  parent : ∀ path, volume.Stores path → path ≠ "/" →
    volume.isDirectory (Path.parent path) = true

/-- What can be asked of a volume that changes it. -/
inductive Request where
  | makeDirectory (path : String)
  | write (path : String) (contents : ByteArray)
  | makeTree (path : String)

/-- The volume after an operation that changes nothing where it fails, and why it failed if so. -/
def settle (volume : Volume) : Except StorageError Volume → Volume × Option StorageError
  | .ok changed => (changed, none)
  | .error error => (volume, some error)

/-- The volume after a request, and why the request was refused if it was. -/
def serve (volume : Volume) : Request → Volume × Option StorageError
  | .makeDirectory path => volume.settle (volume.makeDirectory path)
  | .write path contents => volume.settle (volume.write path contents)
  | .makeTree path => volume.makeSteps [] (Path.segments path.toList)

/-- The volume after requests, refused ones among them. -/
def serveAll (volume : Volume) (requests : List Request) : Volume :=
  requests.foldl (fun volume request => (volume.serve request).1) volume

variable {volume grown : Volume} {path : String}

theorem isDirectory_cons (path other : String) :
    isDirectory { volume with directories := path :: volume.directories } other =
      (other == path || volume.isDirectory other) := by
  rw [isDirectory, List.contains_cons]
  rfl

theorem hasEntry_iff : volume.hasEntry path = true ↔ volume.Stores (Path.normalize path) := by
  rw [hasEntry, Stores, Bool.or_eq_true]

theorem makeDirectory_eq_ok_iff : volume.makeDirectory path = .ok grown ↔
    ¬ volume.Stores (Path.normalize path) ∧
      volume.isDirectory (Path.parent (Path.normalize path)) = true ∧
      grown = { volume with directories := Path.normalize path :: volume.directories } := by
  have hentry : volume.hasEntry (Path.normalize path) = true ↔
      volume.Stores (Path.normalize path) := by
    rw [hasEntry_iff, Path.normalize_normalize]
  unfold makeDirectory
  dsimp only
  rw [← hentry]
  split
  · next hstored => simp [hstored]
  · next hfree =>
      by_cases hparent : volume.isDirectory (Path.parent (Path.normalize path)) = true
      · simp [hfree, hparent, eq_comm]
      · simp [hparent]

theorem isDirectory_of_made (hmade : volume.makeDirectory path = .ok grown) :
    grown.isDirectory (Path.normalize path) = true := by
  obtain ⟨-, -, rfl⟩ := makeDirectory_eq_ok_iff.mp hmade
  rw [isDirectory_cons, beq_self_eq_true, Bool.true_or]

theorem write_eq_ok_iff {contents : ByteArray} : volume.write path contents = .ok grown ↔
    volume.isDirectory (Path.normalize path) = false ∧
      volume.isDirectory (Path.parent (Path.normalize path)) = true ∧
      grown = { volume with files := volume.files.insert (Path.normalize path) contents } := by
  unfold write
  dsimp only
  by_cases hdirectory : volume.isDirectory (Path.normalize path) = true
  · simp [hdirectory]
  · by_cases hparent : volume.isDirectory (Path.parent (Path.normalize path)) = true
    · simp [hdirectory, hparent, eq_comm]
    · simp [hdirectory, hparent]

theorem isTree_empty : empty.IsTree where
  root := rfl
  apart _ := fun h => Bool.noConfusion h.2
  canonical path h := by
    rcases h with h | h
    · obtain rfl : path = "/" := by simpa [isDirectory, empty] using h
      rfl
    · cases h
  parent path h hroot := by
    rcases h with h | h
    · exact absurd (by simpa [isDirectory, empty] using h) hroot
    · cases h

theorem IsTree.makeDirectory (htree : volume.IsTree)
    (hmade : volume.makeDirectory path = .ok grown) : grown.IsTree := by
  obtain ⟨hfree, hparent, rfl⟩ := makeDirectory_eq_ok_iff.mp hmade
  have hstores : ∀ other, Stores
      { volume with directories := Path.normalize path :: volume.directories } other →
        other = Path.normalize path ∨ volume.Stores other := by
    rintro other (hother | hother)
    · rw [isDirectory_cons, Bool.or_eq_true, beq_iff_eq] at hother
      exact hother.imp_right .inl
    · exact .inr (.inr hother)
  constructor
  case root => rw [isDirectory_cons, htree.root, Bool.or_true]
  case apart =>
    rintro other ⟨hdirectory, hfile⟩
    rw [isDirectory_cons, Bool.or_eq_true, beq_iff_eq] at hdirectory
    rcases hdirectory with rfl | hdirectory
    · exact hfree (.inr hfile)
    · exact htree.apart other ⟨hdirectory, hfile⟩
  case canonical =>
    intro other hother
    rcases hstores other hother with rfl | hother
    · exact Path.normalize_normalize path
    · exact htree.canonical other hother
  case parent =>
    intro other hother hroot
    rw [isDirectory_cons]
    rcases hstores other hother with rfl | hother
    · rw [hparent, Bool.or_true]
    · rw [htree.parent other hother hroot, Bool.or_true]

theorem IsTree.write {contents : ByteArray} (htree : volume.IsTree)
    (hwritten : volume.write path contents = .ok grown) : grown.IsTree := by
  obtain ⟨hfree, hparent, rfl⟩ := write_eq_ok_iff.mp hwritten
  have hstores : ∀ other, Stores
      { volume with files := volume.files.insert (Path.normalize path) contents } other →
        other = Path.normalize path ∨ volume.Stores other := by
    rintro other (hother | hother)
    · exact .inr (.inl hother)
    · rw [SortedMap.contains_insert, Bool.or_eq_true, beq_iff_eq] at hother
      exact hother.imp_right .inr
  constructor
  case root => exact htree.root
  case apart =>
    rintro other ⟨hdirectory, hfile⟩
    rw [SortedMap.contains_insert, Bool.or_eq_true, beq_iff_eq] at hfile
    rcases hfile with rfl | hfile
    · exact Bool.noConfusion (hfree.symm.trans hdirectory)
    · exact htree.apart other ⟨hdirectory, hfile⟩
  case canonical =>
    intro other hother
    rcases hstores other hother with rfl | hother
    · exact Path.normalize_normalize path
    · exact htree.canonical other hother
  case parent =>
    intro other hother hroot
    rcases hstores other hother with rfl | hother
    · exact hparent
    · exact htree.parent other hother hroot

theorem IsTree.makeSteps (htree : volume.IsTree) (done : List Char) (path : List (List Char)) :
    (volume.makeSteps done path).1.IsTree := by
  induction path generalizing volume done with
  | nil => exact htree
  | cons segment rest ih =>
      unfold Volume.makeSteps
      dsimp only
      split
      · exact ih htree _
      · split
        · next hmade => exact ih (htree.makeDirectory hmade) _
        · exact htree

theorem IsTree.settle (htree : volume.IsTree) {outcome : Except StorageError Volume}
    (houtcome : ∀ changed, outcome = .ok changed → changed.IsTree) :
    (volume.settle outcome).1.IsTree := by
  cases outcome with
  | ok changed => exact houtcome changed rfl
  | error error => exact htree

theorem IsTree.serve (htree : volume.IsTree) (request : Request) :
    (volume.serve request).1.IsTree := by
  cases request with
  | makeDirectory path => exact htree.settle fun _ hmade => htree.makeDirectory hmade
  | write path contents => exact htree.settle fun _ hwritten => htree.write hwritten
  | makeTree path => exact htree.makeSteps [] _

theorem IsTree.serveAll (htree : volume.IsTree) (requests : List Request) :
    (volume.serveAll requests).IsTree := by
  induction requests generalizing volume with
  | nil => exact htree
  | cons request rest ih => exact ih (htree.serve request)

theorem IsTree.not_stores_append (htree : volume.IsTree) {directory segment : List Char}
    (hne : directory ≠ []) (hsegment : Path.IsProper segment)
    (hfree : ¬ volume.Stores (String.ofList directory)) :
    ¬ volume.Stores (String.ofList (directory ++ '/' :: segment)) := by
  intro hstored
  have hroot : String.ofList (directory ++ '/' :: segment) ≠ "/" := by
    intro hsame
    have hlength := congrArg (fun path => path.toList.length) hsame
    have := List.length_pos_iff.mpr hne
    simp at hlength
    omega
  have hparent := htree.parent _ hstored hroot
  rw [Path.parent_append directory hsegment.single, if_neg hne] at hparent
  exact hfree (.inl hparent)

theorem IsTree.not_stores_made (htree : volume.IsTree) {directory segment : List Char}
    (hne : directory ≠ []) (hsegment : Path.IsProper segment)
    (hcanonical : Path.normalize (String.ofList directory) = String.ofList directory)
    (hmade : volume.makeDirectory (String.ofList directory) = .ok grown) :
    ¬ grown.Stores (String.ofList (directory ++ '/' :: segment)) := by
  obtain ⟨hfree, -, rfl⟩ := makeDirectory_eq_ok_iff.mp hmade
  rw [hcanonical] at hfree ⊢
  have hbelow := htree.not_stores_append hne hsegment hfree
  rintro (hstored | hstored)
  · rw [isDirectory_cons, Bool.or_eq_true, beq_iff_eq, String.ofList_inj,
      List.append_right_eq_self] at hstored
    rcases hstored with hsame | hstored
    · cases hsame
    · exact hbelow (.inl hstored)
  · exact hbelow (.inr hstored)

theorem IsTree.makeSteps_of_empty (htree : volume.IsTree) {done rest : List (List Char)}
    (hne : done ≠ []) (hdone : ∀ segment ∈ done, Path.IsProper segment)
    (hrest : ∀ segment ∈ rest, Path.IsProper segment)
    (hdirectory : volume.isDirectory (String.ofList (Path.through done)) = true)
    (hempty : ∀ segment, Path.IsProper segment →
      ¬ volume.Stores (String.ofList (Path.through done ++ '/' :: segment))) :
    (volume.makeSteps (Path.through done) rest).2 = none := by
  induction rest generalizing volume done with
  | nil => rfl
  | cons segment rest ih =>
      obtain ⟨hsegment, hrest⟩ := List.forall_mem_cons.mp hrest
      have hproper := Path.isProper_concat hdone hsegment
      have hcanonical := Path.normalize_through hproper (List.concat_ne_nil _ _)
      rw [Path.through_concat] at hcanonical
      have hfree := hempty segment hsegment
      have hthrough : Path.through done ≠ [] := by
        rw [Path.through_eq_ofSegments hne]
        exact List.cons_ne_nil _ _
      obtain ⟨grown, hmade⟩ : ∃ grown, volume.makeDirectory
          (String.ofList (Path.through done ++ '/' :: segment)) = .ok grown := by
        refine ⟨_, makeDirectory_eq_ok_iff.mpr ⟨?_, ?_, rfl⟩⟩
        · rwa [hcanonical]
        · rwa [hcanonical, Path.parent_append _ hsegment.single, if_neg hthrough]
      unfold Volume.makeSteps
      dsimp only
      rw [if_neg (by rwa [hasEntry_iff, hcanonical]), hmade, ← Path.through_concat]
      refine ih (htree.makeDirectory hmade) (List.concat_ne_nil _ _) hproper hrest ?_ ?_
      · rw [Path.through_concat, ← hcanonical]
        exact isDirectory_of_made hmade
      · rw [Path.through_concat]
        exact fun next hnext =>
          htree.not_stores_made (List.append_ne_nil_of_right_ne_nil _ (List.cons_ne_nil _ _)) hnext
            hcanonical hmade

/-- Where a step of a path is refused, none was made before it. -/
theorem IsTree.makeSteps_of_refused (htree : volume.IsTree) {done rest : List (List Char)}
    (hdone : ∀ segment ∈ done, Path.IsProper segment)
    (hrest : ∀ segment ∈ rest, Path.IsProper segment)
    (hrefused : (volume.makeSteps (Path.through done) rest).2 ≠ none) :
    (volume.makeSteps (Path.through done) rest).1 = volume := by
  induction rest generalizing done with
  | nil => rfl
  | cons segment rest ih =>
      obtain ⟨hsegment, hrest⟩ := List.forall_mem_cons.mp hrest
      have hproper := Path.isProper_concat hdone hsegment
      have hcanonical := Path.normalize_through hproper (List.concat_ne_nil _ _)
      unfold Volume.makeSteps at hrefused ⊢
      dsimp only at hrefused ⊢
      rw [← Path.through_concat] at hrefused ⊢
      split at hrefused
      · next hentry =>
          rw [if_pos hentry]
          exact ih hproper hrest hrefused
      · next hentry =>
          rw [if_neg hentry]
          split at hrefused
          · next grown hmade =>
              refine absurd ?_ hrefused
              have hne : Path.through (done ++ [segment]) ≠ [] := by
                rw [Path.through_concat]
                exact List.append_ne_nil_of_right_ne_nil _ (List.cons_ne_nil _ _)
              refine (htree.makeDirectory hmade).makeSteps_of_empty (List.concat_ne_nil _ _) hproper
                hrest ?_ fun next hnext => htree.not_stores_made hne hnext hcanonical hmade
              rw [← hcanonical]
              exact isDirectory_of_made hmade
          · rfl

theorem IsTree.serve_of_refused (htree : volume.IsTree) {request : Request}
    (hrefused : (volume.serve request).2 ≠ none) : (volume.serve request).1 = volume := by
  have hsettle : ∀ {outcome : Except StorageError Volume},
      (volume.settle outcome).2 ≠ none → (volume.settle outcome).1 = volume := by
    rintro (error | changed) hfailed
    · rfl
    · exact absurd rfl hfailed
  cases request with
  | makeDirectory path => exact hsettle hrefused
  | write path contents => exact hsettle hrefused
  | makeTree path =>
      exact htree.makeSteps_of_refused (List.forall_mem_nil _)
        (fun _ => Path.isProper_of_mem_segments) hrefused

/-- Whatever is asked of a new volume, it stays a tree, and a request that is refused leaves the
volume as it was. -/
theorem isTree_after_requests (requests : List Request) :
    (empty.serveAll requests).IsTree ∧ ∀ request,
      ((empty.serveAll requests).serve request).2 ≠ none →
        ((empty.serveAll requests).serve request).1 = empty.serveAll requests := by
  have htree := isTree_empty.serveAll requests
  exact ⟨htree, fun _ => htree.serve_of_refused⟩

end BrightScript.Volume
