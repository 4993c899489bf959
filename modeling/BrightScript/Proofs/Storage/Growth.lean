import BrightScript.Proofs.Storage.Tree

namespace BrightScript.Volume

/-- A volume gains directories and keeps everything else as it is. -/
structure Gains (before after : Volume) (gained : String → Prop) : Prop where
  files_eq : after.files = before.files
  isDirectory_iff : ∀ path,
    after.isDirectory path = true ↔ before.isDirectory path = true ∨ gained path
  nodup : before.directories.Nodup → after.directories.Nodup

variable {volume grown : Volume} {path : String}

namespace Gains

theorem refl {gained : String → Prop}
    (hgained : ∀ path, gained path → volume.isDirectory path = true) :
    volume.Gains volume gained where
  files_eq := rfl
  isDirectory_iff path := ⟨.inl, fun h => h.elim id (hgained path)⟩
  nodup := id

theorem trans {larger : Volume} {gained further others : String → Prop}
    (h : volume.Gains grown gained) (hlarger : grown.Gains larger further)
    (hothers : ∀ path, volume.isDirectory path = true ∨ gained path ∨ further path ↔
      volume.isDirectory path = true ∨ others path) : volume.Gains larger others where
  files_eq := hlarger.files_eq.trans h.files_eq
  isDirectory_iff path := by
    rw [hlarger.isDirectory_iff, h.isDirectory_iff, or_assoc, hothers]
  nodup := fun hnodup => hlarger.nodup (h.nodup hnodup)

theorem makeDirectory (hmade : volume.makeDirectory path = .ok grown) :
    volume.Gains grown (· = Path.normalize path) := by
  obtain ⟨hfree, -, rfl⟩ := makeDirectory_eq_ok_iff.mp hmade
  constructor
  · rfl
  · intro other
    rw [isDirectory_cons, Bool.or_eq_true, beq_iff_eq, or_comm]
  · intro hnodup
    refine List.nodup_cons.mpr ⟨fun hmem => hfree (.inl ?_), hnodup⟩
    exact List.contains_iff_mem.mpr hmem

end Gains

theorem makeSteps_cons_of_stores {done : List (List Char)} {segment : List Char}
    (rest : List (List Char)) (hproper : ∀ step ∈ done ++ [segment], Path.IsProper step)
    (hstored : volume.Stores (String.ofList (Path.ofSegments (done ++ [segment])))) :
    volume.makeSteps (Path.through done) (segment :: rest) =
      volume.makeSteps (Path.through (done ++ [segment])) rest := by
  rw [makeSteps, ← Path.through_concat,
    Path.through_eq_ofSegments (List.concat_ne_nil segment done), if_pos]
  rwa [hasEntry_iff, Path.normalize_ofSegments hproper]

theorem makeSteps_cons_of_made {done : List (List Char)} {segment : List Char}
    (rest : List (List Char))
    (hmade : volume.makeDirectory (String.ofList (Path.ofSegments (done ++ [segment]))) =
      .ok grown) :
    volume.makeSteps (Path.through done) (segment :: rest) =
      grown.makeSteps (Path.through (done ++ [segment])) rest := by
  have hfree := (makeDirectory_eq_ok_iff.mp hmade).1
  rw [makeSteps, ← Path.through_concat,
    Path.through_eq_ofSegments (List.concat_ne_nil segment done), if_neg, hmade]
  rwa [hasEntry_iff]

theorem IsTree.makeSteps_cons_of_clear (htree : volume.IsTree) {done : List (List Char)}
    {segment : List Char} (rest : List (List Char))
    (hproper : ∀ step ∈ done ++ [segment], Path.IsProper step)
    (hdirectory : volume.isDirectory (String.ofList (Path.ofSegments done)) = true)
    (hclear : volume.files.contains
      (String.ofList (Path.ofSegments (done ++ [segment]))) = false) :
    ∃ grown : Volume, volume.makeSteps (Path.through done) (segment :: rest) =
        grown.makeSteps (Path.through (done ++ [segment])) rest ∧ grown.IsTree ∧
      volume.Gains grown (· = String.ofList (Path.ofSegments (done ++ [segment]))) := by
  have hsegment : Path.IsProper segment := hproper segment (by simp)
  have hcanonical := Path.normalize_ofSegments hproper
  by_cases hstored : volume.Stores (String.ofList (Path.ofSegments (done ++ [segment])))
  · have hhere := hstored.resolve_right (by rw [hclear]; exact Bool.false_ne_true)
    exact ⟨volume, makeSteps_cons_of_stores rest hproper hstored, htree,
      .refl fun _ hpath => hpath ▸ hhere⟩
  · obtain ⟨grown, hmade⟩ : ∃ grown, volume.makeDirectory
        (String.ofList (Path.ofSegments (done ++ [segment]))) = .ok grown := by
      refine ⟨_, makeDirectory_eq_ok_iff.mpr ⟨?_, ?_, rfl⟩⟩
      · rwa [hcanonical]
      · rwa [hcanonical, Path.parent_ofSegments hsegment]
    have hgains := Gains.makeDirectory hmade
    rw [hcanonical] at hgains
    exact ⟨grown, makeSteps_cons_of_made rest hmade, htree.makeDirectory hmade, hgains⟩

/-- Where no file is in the way, the steps of a path all succeed, and each is a directory after. -/
theorem IsTree.makeSteps_of_clear (htree : volume.IsTree) {done rest : List (List Char)}
    (hdone : ∀ segment ∈ done, Path.IsProper segment)
    (hrest : ∀ segment ∈ rest, Path.IsProper segment)
    (hdirectory : volume.isDirectory (String.ofList (Path.ofSegments done)) = true)
    (hclear : ∀ front, front <+: rest →
      volume.files.contains (String.ofList (Path.ofSegments (done ++ front))) = false) :
    ∃ grown, volume.makeSteps (Path.through done) rest = (grown, none) ∧
      volume.Gains grown fun path => ∃ front, front <+: rest ∧
        path = String.ofList (Path.ofSegments (done ++ front)) := by
  induction rest generalizing volume done with
  | nil =>
      refine ⟨volume, rfl, .refl ?_⟩
      rintro _ ⟨front, hfront, rfl⟩
      rwa [List.prefix_nil.mp hfront, List.append_nil]
  | cons segment rest ih =>
      obtain ⟨hsegment, hrest⟩ := List.forall_mem_cons.mp hrest
      have hproper := Path.isProper_concat hdone hsegment
      obtain ⟨grown, hstep, hgrown, hgains⟩ := htree.makeSteps_cons_of_clear rest hproper hdirectory
        (hclear [segment] (List.prefix_append [segment] rest))
      have hhere := (hgains.isDirectory_iff _).mpr (.inr rfl)
      obtain ⟨larger, hmade, hlarger⟩ := ih hgrown hproper hrest hhere fun front hfront => by
        rw [hgains.files_eq, ← List.append_cons]
        exact hclear (segment :: front) (List.cons_prefix_cons.mpr ⟨rfl, hfront⟩)
      refine ⟨larger, hstep.trans hmade, hgains.trans hlarger fun other => ?_⟩
      constructor
      · rintro (hother | rfl | ⟨front, hfront, rfl⟩)
        · exact .inl hother
        · exact .inr ⟨[segment], List.prefix_append [segment] rest, rfl⟩
        · refine .inr ⟨segment :: front, List.cons_prefix_cons.mpr ⟨rfl, hfront⟩, ?_⟩
          rw [List.append_cons done segment front]
      · rintro (hother | ⟨front, hfront, rfl⟩)
        · exact .inl hother
        · rcases List.prefix_cons_iff.mp hfront with rfl | ⟨inner, rfl, hinner⟩
          · exact .inl (by rwa [List.append_nil])
          · exact .inr (.inr ⟨inner, hinner, by rw [List.append_cons]⟩)

theorem IsTree.makeTree_of_clear (htree : volume.IsTree) {segments : List (List Char)}
    (hproper : ∀ segment ∈ segments, Path.IsProper segment)
    (hclear : ∀ front, front <+: segments →
      volume.files.contains (String.ofList (Path.ofSegments front)) = false) :
    ∃ grown, volume.makeTree (String.ofList (Path.ofSegments segments)) = .ok grown ∧
      grown.IsTree ∧ volume.Gains grown fun path =>
        ∃ front, front <+: segments ∧ path = String.ofList (Path.ofSegments front) := by
  have hdone : ∀ segment ∈ ([] : List (List Char)), Path.IsProper segment := List.forall_mem_nil _
  obtain ⟨grown, hmade, hgains⟩ := htree.makeSteps_of_clear hdone hproper htree.root hclear
  have hgrown := htree.makeSteps [] segments
  change volume.makeSteps [] segments = _ at hmade
  rw [hmade] at hgrown
  refine ⟨grown, ?_, hgrown, hgains⟩
  unfold Volume.makeTree
  rw [String.toList_ofList, Path.segments_ofSegments hproper, hmade]

theorem IsTree.isDirectory_of_mem_ancestors (htree : volume.IsTree)
    {segments : List (List Char)} (hproper : ∀ segment ∈ segments, Path.IsProper segment)
    (hstored : volume.Stores (String.ofList (Path.ofSegments segments))) {above : String}
    (habove : above ∈ Path.ancestors (String.ofList (Path.ofSegments segments))) :
    volume.isDirectory above = true := by
  obtain ⟨front, hfront, hne, rfl⟩ := (Path.mem_ancestors_ofSegments_iff hproper).mp habove
  clear habove
  -- from the inside out: the directory that something stands in is itself stored
  induction segments using List.reverseRecOn with
  | nil => exact absurd (List.prefix_nil.mp hfront) hne
  | append_singleton inner segment ih =>
      have hroot := mt (Path.ofSegments_eq_root_iff hproper).mp (List.concat_ne_nil segment inner)
      rw [List.forall_mem_append, List.forall_mem_singleton] at hproper
      have hparent := htree.parent _ hstored hroot
      rw [Path.parent_ofSegments hproper.2] at hparent
      rcases List.prefix_concat_iff.mp hfront with hsame | hinner
      · exact absurd hsame hne
      · by_cases hsame : front = inner
        · rwa [hsame]
        · exact ih hproper.1 (.inl hparent) hinner hsame

theorem IsTree.exists_directory_of_clear (htree : volume.IsTree) {segments : List (List Char)}
    (hproper : ∀ segment ∈ segments, Path.IsProper segment)
    (hclear : ∀ front, front <+: segments →
      volume.files.contains (String.ofList (Path.ofSegments front)) = false) :
    ∃ grown : Volume, (if volume.hasEntry (String.ofList (Path.ofSegments segments)) then
        pure volume else volume.makeTree (String.ofList (Path.ofSegments segments))) = .ok grown ∧
      grown.IsTree ∧ volume.Gains grown fun path =>
        ∃ front, front <+: segments ∧ path = String.ofList (Path.ofSegments front) := by
  split
  · next hentry =>
      rw [hasEntry_iff, Path.normalize_ofSegments hproper] at hentry
      have hhere := hentry.resolve_right (by rw [hclear segments List.prefix_rfl]; simp)
      refine ⟨volume, rfl, htree, .refl ?_⟩
      rintro _ ⟨front, hfront, rfl⟩
      by_cases hsame : front = segments
      · rwa [hsame]
      · exact htree.isDirectory_of_mem_ancestors hproper (.inl hhere)
          ((Path.mem_ancestors_ofSegments_iff hproper).mpr ⟨front, hfront, hsame, rfl⟩)
  · exact htree.makeTree_of_clear hproper hclear

end BrightScript.Volume
