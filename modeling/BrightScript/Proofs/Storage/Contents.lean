import BrightScript.Proofs.Storage.Tree
import BrightScript.Proofs.Storage.Writing

namespace BrightScript.Volume

variable {volume grown : Volume} {path : String} {contents : ByteArray}

theorem hasEntry_congr {before after : Volume} {other : String}
    (hdirectory : after.isDirectory (Path.normalize other) =
      before.isDirectory (Path.normalize other))
    (hfile : after.files.contains (Path.normalize other) =
      before.files.contains (Path.normalize other)) :
    after.hasEntry other = before.hasEntry other := by
  rw [hasEntry, hasEntry, hdirectory, hfile]

theorem read_congr {before after : Volume} {path other : String}
    (hpath : Path.normalize other = Path.normalize path)
    (hdirectory : after.isDirectory (Path.normalize path) =
      before.isDirectory (Path.normalize path))
    (hfile : after.files.get? (Path.normalize path) = before.files.get? (Path.normalize path)) :
    after.read other = before.read path := by
  unfold read
  dsimp only
  rw [hpath, hdirectory, hfile]

theorem read_of_file (hfree : volume.isDirectory (Path.normalize path) = false)
    (hfile : volume.files.get? (Path.normalize path) = some contents) :
    volume.read path = .ok contents := by
  unfold read
  dsimp only
  rw [hfree, if_neg Bool.false_ne_true, hfile]

theorem Wrote.isDirectory_eq (hwrote : volume.Wrote grown path contents) (other : String) :
    grown.isDirectory other = volume.isDirectory other := by
  rw [isDirectory, isDirectory, hwrote.directories_eq]

/-- A file that was written is read back, and no other file reads differently. -/
theorem read_of_write (hwritten : volume.write path contents = .ok grown) (other : String) :
    grown.read other =
      if Path.normalize other = Path.normalize path then .ok contents else volume.read other := by
  have hwrote := wrote_of_write hwritten
  have hfree := (write_eq_ok_iff.mp hwritten).1
  have hget := hwrote.files_get? (Path.normalize other)
  split
  · next hsame =>
      rw [if_pos hsame] at hget
      refine read_of_file ?_ hget
      rw [hwrote.isDirectory_eq, hsame, hfree]
  · next hother =>
      rw [if_neg hother] at hget
      exact read_congr rfl (hwrote.isDirectory_eq _) hget

theorem hasEntry_of_write (hwritten : volume.write path contents = .ok grown) {other : String}
    (hother : Path.normalize other ≠ Path.normalize path) :
    grown.hasEntry other = volume.hasEntry other := by
  have hwrote := wrote_of_write hwritten
  refine hasEntry_congr (hwrote.isDirectory_eq _) ?_
  rw [SortedMap.contains_eq_isSome_get?, SortedMap.contains_eq_isSome_get?, hwrote.files_get?,
    if_neg hother]

theorem exists_write_iff : (∃ grown, volume.write path contents = .ok grown) ↔
    volume.isDirectory (Path.normalize path) = false ∧
      volume.isDirectory (Path.parent (Path.normalize path)) = true := by
  simp only [write_eq_ok_iff, exists_and_left, exists_eq, and_true]

theorem isDirectory_of_makeDirectory (hmade : volume.makeDirectory path = .ok grown)
    (other : String) : grown.isDirectory other = true ↔
      volume.isDirectory other = true ∨ other = Path.normalize path := by
  obtain ⟨-, -, rfl⟩ := makeDirectory_eq_ok_iff.mp hmade
  rw [isDirectory_cons, Bool.or_eq_true, beq_iff_eq, or_comm]

theorem files_of_makeDirectory (hmade : volume.makeDirectory path = .ok grown) :
    grown.files = volume.files := by
  obtain ⟨-, -, rfl⟩ := makeDirectory_eq_ok_iff.mp hmade
  rfl

theorem exists_makeDirectory_iff : (∃ grown, volume.makeDirectory path = .ok grown) ↔
    volume.hasEntry path = false ∧
      volume.isDirectory (Path.parent (Path.normalize path)) = true := by
  rw [← Bool.not_eq_true, hasEntry_iff]
  simp only [makeDirectory_eq_ok_iff, exists_and_left, exists_eq, and_true]

/-- A volume is a map from canonical paths, where every change is found afterwards and changes
nothing but what it is asked for. -/
structure IsMap (volume : Volume) : Prop where
  canonical : ∀ path, volume.read (Path.normalize path) = volume.read path ∧
    volume.hasEntry (Path.normalize path) = volume.hasEntry path
  write_iff : ∀ path contents, (∃ grown, volume.write path contents = .ok grown) ↔
    volume.isDirectory (Path.normalize path) = false ∧
      volume.isDirectory (Path.parent (Path.normalize path)) = true
  read_written : ∀ {path contents grown}, volume.write path contents = .ok grown → ∀ other,
    grown.read other =
      if Path.normalize other = Path.normalize path then .ok contents else volume.read other
  hasEntry_written : ∀ {path contents grown}, volume.write path contents = .ok grown →
    grown.hasEntry path = true ∧
      ∀ other, Path.normalize other ≠ Path.normalize path →
        grown.hasEntry other = volume.hasEntry other
  makeDirectory_iff : ∀ path, (∃ grown, volume.makeDirectory path = .ok grown) ↔
    volume.hasEntry path = false ∧
      volume.isDirectory (Path.parent (Path.normalize path)) = true
  isDirectory_made : ∀ {path grown}, volume.makeDirectory path = .ok grown → ∀ other,
    grown.isDirectory other = true ↔ volume.isDirectory other = true ∨ other = Path.normalize path
  files_made : ∀ {path grown}, volume.makeDirectory path = .ok grown → grown.files = volume.files
  refused : ∀ request, (volume.serve request).2 ≠ none → (volume.serve request).1 = volume

/-- Whatever was asked of a new volume, it is a map from canonical paths. -/
theorem isMap_after_requests (requests : List Request) : (empty.serveAll requests).IsMap where
  canonical path := by
    have hpath := Path.normalize_normalize path
    exact ⟨read_congr hpath rfl rfl, by rw [hasEntry, hpath, ← hasEntry]⟩
  write_iff _ _ := exists_write_iff
  read_written := read_of_write
  hasEntry_written hwritten := by
    refine ⟨?_, fun _ => hasEntry_of_write hwritten⟩
    obtain ⟨-, -, rfl⟩ := write_eq_ok_iff.mp hwritten
    rw [hasEntry_iff]
    exact .inr (by rw [SortedMap.contains_insert, beq_self_eq_true, Bool.true_or])
  makeDirectory_iff _ := exists_makeDirectory_iff
  isDirectory_made := isDirectory_of_makeDirectory
  files_made := files_of_makeDirectory
  refused _ := (isTree_empty.serveAll requests).serve_of_refused

end BrightScript.Volume
