import BrightScript.Package
import BrightScript.Proofs.SortedMap
import BrightScript.Proofs.Storage.Growth

namespace BrightScript

/-- The paths of files that do not stand in the way of one another. -/
structure Path.Apart (places : List String) : Prop where
  nodup : places.Nodup
  ne_root : "/" ∉ places
  not_above : ∀ place ∈ places, ∀ other ∈ places, place ∉ Path.ancestors other

theorem Path.Apart.sublist {places others : List String} (h : Path.Apart others)
    (hsublist : places.Sublist others) : Path.Apart places where
  nodup := h.nodup.sublist hsublist
  ne_root := fun hroot => h.ne_root (hsublist.subset hroot)
  not_above place hplace other hother :=
    h.not_above place (hsublist.subset hplace) other (hsublist.subset hother)

theorem Path.Apart.perm {places others : List String} (h : Path.Apart others)
    (hperm : places.Perm others) : Path.Apart places where
  nodup := hperm.nodup_iff.mpr h.nodup
  ne_root := mt hperm.mem_iff.mp h.ne_root
  not_above place hplace other hother :=
    h.not_above place (hperm.mem_iff.mp hplace) other (hperm.mem_iff.mp hother)

/-- The files of a volume are the given ones, and its directories are those above them. -/
structure Volume.Holds (volume : Volume) (files : List (String × ByteArray)) : Prop where
  tree : volume.IsTree
  entries_perm : volume.files.entries.Perm files
  entries_sorted : volume.files.entries.Pairwise (·.1 < ·.1)
  directories_nodup : volume.directories.Nodup
  isDirectory_iff : ∀ path, volume.isDirectory path = true ↔
    path = "/" ∨ ∃ place ∈ files.map Prod.fst, path ∈ Path.ancestors place

namespace Package

open Volume

/-- Where a file of a package is put. -/
def place (url : String) : String := Path.normalize ("/" ++ url)

theorem normalize_place (url : String) : Path.normalize (place url) = place url :=
  Path.normalize_normalize _

theorem place_ne_empty (url : String) : place url ≠ "" := by
  have hchars : ("/" ++ url).toList ≠ [] := by
    rw [String.toList_append]
    exact List.cons_ne_nil _ _
  intro hempty
  rw [place, Path.normalize, Path.normalizeChars, if_neg hchars] at hempty
  exact absurd (String.toList_eq_nil_iff.mpr hempty) (by simp [Path.ofSegments])

theorem writeAsset_eq (volume : Volume) (url : String) (contents : ByteArray) :
    writeAsset volume url contents =
      (if volume.hasEntry (Path.parent (place url)) then pure volume
        else volume.makeTree (Path.parent (place url))) >>= (·.write (place url) contents) := by
  unfold writeAsset place
  dsimp only
  split <;> rfl

theorem writeAsset_of_clear {volume : Volume} (htree : volume.IsTree) {url : String}
    (contents : ByteArray) (hroot : place url ≠ "/")
    (hfree : volume.isDirectory (place url) = false)
    (hclear : ∀ above ∈ Path.ancestors (place url), volume.files.contains above = false) :
    ∃ grown : Volume, grown.IsTree ∧ volume.Gains grown (· ∈ Path.ancestors (place url)) ∧
      writeAsset volume url contents = grown.write (place url) contents ∧
      grown.write (place url) contents =
        .ok { grown with files := volume.files.insert (place url) contents } := by
  obtain ⟨front, segment, hfront, hsegment, hplace⟩ :=
    Path.exists_ofSegments (normalize_place url) (place_ne_empty url) hroot
  have hproper := Path.isProper_concat hfront hsegment
  have hancestors : ∀ above, above ∈ Path.ancestors (place url) ↔
      ∃ inner, inner <+: front ∧ above = String.ofList (Path.ofSegments inner) := fun above => by
    rw [hplace, Path.mem_ancestors_concat_iff hproper]
  have hparent : Path.parent (place url) = String.ofList (Path.ofSegments front) := by
    rw [hplace, Path.parent_ofSegments hsegment]
  obtain ⟨grown, hmade, hgrown, hgains⟩ := htree.exists_directory_of_clear hfront
    fun inner hinner => hclear _ ((hancestors _).mpr ⟨inner, hinner, rfl⟩)
  simp only [← hancestors] at hgains
  have hwritten : grown.write (place url) contents =
      .ok { grown with files := grown.files.insert (place url) contents } := by
    rw [write_eq_ok_iff, normalize_place]
    refine ⟨?_, ?_, rfl⟩
    · rw [Bool.eq_false_iff, Ne, hgains.isDirectory_iff, hfree]
      simp [Path.not_mem_ancestors_self]
    · rw [hgains.isDirectory_iff, hparent]
      exact .inr ((hancestors _).mpr ⟨front, List.prefix_rfl, rfl⟩)
  refine ⟨grown, hgrown, hgains, ?_, hgains.files_eq ▸ hwritten⟩
  rw [writeAsset_eq, hparent, hmade]
  rfl

/-- What a package gives for one of its files, and where it is put. -/
def content? (package : Package) (path : PackagePath) : Option (String × ByteArray) :=
  (package.payload? path).map (place path.url, ·)

end Package

namespace Volume.Holds

variable {volume : Volume} {files : List (String × ByteArray)}

theorem empty : Volume.empty.Holds [] where
  tree := isTree_empty
  entries_perm := .refl _
  entries_sorted := .nil
  directories_nodup := List.nodup_singleton _
  isDirectory_iff path := by simp [isDirectory, Volume.empty]

theorem contains_iff (h : volume.Holds files) (path : String) :
    volume.files.contains path = true ↔ path ∈ files.map Prod.fst := by
  unfold SortedMap.contains
  rw [List.any_eq_true, List.mem_map]
  simp only [h.entries_perm.mem_iff, beq_iff_eq]

theorem read_of_mem (h : volume.Holds files) (hapart : Path.Apart (files.map Prod.fst))
    {path : String} {contents : ByteArray} (hfile : (path, contents) ∈ files)
    (hcanonical : Path.normalize path = path) : volume.read path = .ok contents := by
  have hplace : path ∈ files.map Prod.fst := List.mem_map.mpr ⟨_, hfile, rfl⟩
  have hfree : volume.isDirectory path ≠ true := by
    intro hdirectory
    rcases (h.isDirectory_iff path).mp hdirectory with hroot | ⟨other, hother, habove⟩
    · exact hapart.ne_root (hroot ▸ hplace)
    · exact hapart.not_above _ hplace _ hother habove
  have hget : volume.files.get? path = some contents :=
    SortedMap.lookup_of_mem h.entries_sorted (h.entries_perm.mem_iff.mpr hfile)
  unfold Volume.read
  dsimp only
  rw [hcanonical, if_neg hfree, hget]

theorem writeAsset (h : volume.Holds files) {url : String} {contents : ByteArray}
    (hapart : Path.Apart ((files ++ [(Package.place url, contents)]).map Prod.fst)) :
    ∃ written, Package.writeAsset volume url contents = .ok written ∧
      written.Holds (files ++ [(Package.place url, contents)]) := by
  rw [List.map_append, List.map_singleton] at hapart
  have hplace : Package.place url ∈ files.map Prod.fst ++ [Package.place url] := by simp
  have hold : ∀ {place}, place ∈ files.map Prod.fst →
      place ∈ files.map Prod.fst ++ [Package.place url] := List.mem_append_left _
  have hroot : Package.place url ≠ "/" := fun hroot => hapart.ne_root (hroot ▸ hplace)
  have hfree : volume.isDirectory (Package.place url) = false := by
    rw [Bool.eq_false_iff, Ne, h.isDirectory_iff]
    rintro (hsame | ⟨other, hother, habove⟩)
    · exact hroot hsame
    · exact hapart.not_above _ hplace _ (hold hother) habove
  have hclear : ∀ above ∈ Path.ancestors (Package.place url),
      volume.files.contains above = false := by
    intro above habove
    rw [Bool.eq_false_iff, Ne, h.contains_iff]
    exact fun hother => hapart.not_above _ (hold hother) _ hplace habove
  have hfresh : Package.place url ∉ volume.files.entries.map Prod.fst := by
    rw [(h.entries_perm.map Prod.fst).mem_iff]
    intro hmem
    exact List.disjoint_of_nodup_append hapart.nodup hmem (List.mem_singleton_self _)
  obtain ⟨grown, hgrown, hgains, hwrites, hwritten⟩ :=
    Package.writeAsset_of_clear h.tree contents hroot hfree hclear
  refine ⟨_, hwrites.trans hwritten, hgrown.write hwritten, ?_, ?_, ?_, fun path => ?_⟩
  · refine (SortedMap.perm_put hfresh contents).trans ?_
    exact (h.entries_perm.cons _).trans (List.perm_append_singleton _ _).symm
  · exact SortedMap.pairwise_put h.entries_sorted _ _
  · exact hgains.nodup h.directories_nodup
  · refine (hgains.isDirectory_iff path).trans ?_
    rw [h.isDirectory_iff, List.map_append, List.map_singleton]
    simp only [List.mem_append, List.mem_singleton, or_and_right, exists_or, exists_eq_left,
      or_assoc]

end Volume.Holds

namespace Package

/-- The note about a file of a package that has no payload. -/
def missingNotes (package : Package) (path : PackagePath) : List String :=
  match package.payload? path with
  | none => (package.installPath .empty path).2
  | some _ => []

theorem installPaths_holds (package : Package) {volume : Volume}
    {files : List (String × ByteArray)} (h : volume.Holds files) (paths : List PackagePath)
    (hapart : Path.Apart ((files ++ paths.filterMap package.content?).map Prod.fst)) :
    (package.installPaths volume paths).1.Holds (files ++ paths.filterMap package.content?) ∧
      (package.installPaths volume paths).2 = paths.flatMap package.missingNotes := by
  induction paths generalizing volume files with
  | nil =>
      rw [List.filterMap_nil, List.append_nil]
      exact ⟨h, rfl⟩
  | cons path rest ih =>
      unfold installPaths
      rw [List.flatMap_cons, missingNotes]
      unfold installPath
      cases hpayload : package.payload? path with
      | none =>
          have hcontent : package.content? path = none := by rw [content?, hpayload]; rfl
          rw [List.filterMap_cons_none hcontent] at hapart ⊢
          obtain ⟨hholds, hnotes⟩ := ih h hapart
          exact ⟨hholds, congrArg _ hnotes⟩
      | some contents =>
          have hcontent : package.content? path = some (place path.url, contents) := by
            rw [content?, hpayload]; rfl
          rw [List.filterMap_cons_some hcontent, List.append_cons] at hapart ⊢
          obtain ⟨written, hwritten, hwriting⟩ := h.writeAsset <|
            hapart.sublist ((List.sublist_append_left _ _).map _)
          obtain ⟨hholds, hnotes⟩ := ih hwriting hapart
          dsimp only
          rw [hwritten]
          exact ⟨hholds, hnotes⟩

/-- The files of a package that have a payload. -/
def delivered (package : Package) : List PackagePath :=
  package.paths.filter fun path => (package.payload? path).isSome

theorem map_fst_filterMap_content? (package : Package) (paths : List PackagePath) :
    (paths.filterMap package.content?).map Prod.fst =
      (paths.filter fun path => (package.payload? path).isSome).map fun path => place path.url := by
  induction paths with
  | nil => rfl
  | cons path rest ih =>
      cases hpayload : package.payload? path with
      | none => simpa [content?, hpayload] using ih
      | some contents => simpa [content?, hpayload] using ih

/-- A volume holds what a package delivers, and nothing else. The root is a directory even where
nothing is delivered. -/
structure Delivers (package : Package) (volume : Volume) : Prop where
  file_iff : ∀ path, volume.files.contains path = true ↔
    ∃ file ∈ package.delivered, path = place file.url
  read_eq : ∀ file ∈ package.paths, ∀ contents, package.payload? file = some contents →
    volume.read (place file.url) = .ok contents
  read_audio : ∀ file ∈ package.paths, file.kind = .audio →
    volume.read (place file.url) = .ok (toString file.id).toUTF8
  isDirectory_iff : ∀ path, volume.isDirectory path = true ↔
    path = "/" ∨ ∃ file ∈ package.delivered, path ∈ Path.ancestors (place file.url)

theorem delivers_of_holds {package : Package} {volume : Volume}
    (h : volume.Holds (package.paths.filterMap package.content?))
    (hapart : Path.Apart (package.delivered.map fun file => place file.url)) :
    package.Delivers volume := by
  have hplaces : (package.paths.filterMap package.content?).map Prod.fst =
      package.delivered.map fun file => place file.url :=
    package.map_fst_filterMap_content? package.paths
  rw [← hplaces] at hapart
  have hread : ∀ file ∈ package.paths, ∀ contents, package.payload? file = some contents →
      volume.read (place file.url) = .ok contents := by
    intro file hfile contents hpayload
    have hcontent : (place file.url, contents) ∈ package.paths.filterMap package.content? :=
      List.mem_filterMap.mpr ⟨file, hfile, by rw [content?, hpayload]; rfl⟩
    exact h.read_of_mem hapart hcontent (normalize_place file.url)
  constructor
  case file_iff =>
    intro path
    rw [h.contains_iff, hplaces, List.mem_map]
    simp only [eq_comm]
  case read_eq => exact hread
  case read_audio =>
    intro file hfile haudio
    exact hread file hfile _ (by rw [payload?, haudio])
  case isDirectory_iff =>
    intro path
    rw [h.isDirectory_iff, hplaces]
    simp only [List.mem_map, exists_exists_and_eq_and]

end Package

/-- Two volumes hold the same. The order in which directories are listed means nothing. -/
structure Volume.Same (left right : Volume) : Prop where
  directories_perm : left.directories.Perm right.directories
  files_eq : left.files = right.files

namespace Volume

theorem Same.refl (volume : Volume) : volume.Same volume := ⟨.refl _, rfl⟩

theorem Same.read_eq {left right : Volume} (h : left.Same right) (path : String) :
    left.read path = right.read path := by
  unfold read isDirectory
  simp only [h.files_eq, List.contains_eq_mem, h.directories_perm.mem_iff]

theorem Holds.same {left right : Volume} {files others : List (String × ByteArray)}
    (hleft : left.Holds files) (hright : right.Holds others) (hperm : files.Perm others) :
    left.Same right := by
  constructor
  · rw [List.perm_ext_iff_of_nodup hleft.directories_nodup hright.directories_nodup]
    intro path
    have hiff : left.isDirectory path = true ↔ right.isDirectory path = true := by
      rw [hleft.isDirectory_iff, hright.isDirectory_iff]
      simp only [(hperm.map Prod.fst).mem_iff]
    rwa [isDirectory, isDirectory, List.contains_iff_mem, List.contains_iff_mem] at hiff
  · have hentries : left.files.entries = right.files.entries :=
      SortedMap.eq_of_perm (hleft.entries_perm.trans (hperm.trans hright.entries_perm.symm))
        hleft.entries_sorted hright.entries_sorted
    cases hfiles : left.files
    cases hothers : right.files
    rw [hfiles, hothers] at hentries
    exact congrArg SortedMap.mk hentries

end Volume

/-- Two installations differ only in the order of their units and notes. -/
structure Package.Installed.Same (left right : Installed) : Prop where
  info_eq : left.device.info = right.device.info
  models_eq : left.device.models = right.device.models
  volumes : ∀ name, Option.Rel Volume.Same (left.device.files.volumes.get? name)
    (right.device.files.volumes.get? name)
  units_perm : left.units.Perm right.units
  manifest_eq : left.manifest = right.manifest
  warnings_perm : left.warnings.Perm right.warnings

namespace Package

theorem key_packageVolume : Name.key "pkg:" = "pkg:" := by simp [Name.key_eq_iff]

theorem get?_volumes_install (package : Package) (name : String) :
    package.install.device.files.volumes.get? name =
      if name = "pkg:" then some (package.installPaths .empty package.paths).1
      else (FileSystem.standard.mount "common:"
        (installedLibraries.foldl installLibrary .empty)).volumes.get? name := by
  change (FileSystem.mount _ _ _).volumes.get? name = _
  rw [FileSystem.mount, SortedMap.get?_insert, key_packageVolume]

theorem forall₂_units (package : Package) (paths : List PackagePath) :
    List.Forall₂ (fun file unit => unit.path = file.url ∧
        package.sources[file.id]? = some unit.text)
      ((paths.filter fun file => (package.payload? file).isSome).filter (·.kind = .source))
      (paths.filterMap package.unit?) := by
  induction paths with
  | nil => exact .nil
  | cons file rest ih =>
      cases hkind : file.kind with
      | source =>
          cases htext : package.sources[file.id]? with
          | none => simpa [payload?, unit?, hkind, htext] using ih
          | some text => simpa [payload?, unit?, hkind, htext] using ih
      | _ =>
          have hunit : package.unit? file = none := by rw [unit?, hkind]
          rw [List.filterMap_cons_none hunit, List.filter_cons]
          split
          · rwa [List.filter_cons_of_neg (by rw [hkind]; decide)]
          · exact ih

theorem manifestOn_of_isTree {volume : Volume} (htree : volume.IsTree) :
    manifestOn volume = match volume.files.get? "/manifest" with
      | some contents => .parse (String.ofList (Text.decodeLossy contents.toList))
      | none => .empty := by
  have hcanonical : Path.normalize "/manifest" = "/manifest" := by decide +kernel
  unfold manifestOn Volume.read
  dsimp only
  rw [hcanonical]
  cases hget : volume.files.get? "/manifest" with
  | none =>
      by_cases hdirectory : volume.isDirectory "/manifest" = true
      · rw [if_pos hdirectory]
      · rw [if_neg hdirectory]
  | some contents =>
      have hfile : volume.files.contains "/manifest" = true := by
        rw [SortedMap.contains_eq_isSome_get?, hget, Option.isSome_some]
      rw [if_neg fun hdirectory => htree.apart _ ⟨hdirectory, hfile⟩]

/-- Installing the files of a package in another order gives the same. -/
theorem same_of_perm {package other : Package} (hperm : other.paths.Perm package.paths)
    (hothers : other = { package with paths := other.paths })
    (hapart : Path.Apart ((package.paths.filterMap package.content?).map Prod.fst)) :
    other.install.Same package.install := by
  have hdevice : other.device = package.device := by rw [hothers]
  have hcontent : other.content? = package.content? := by rw [hothers]; rfl
  have hunit : other.unit? = package.unit? := by rw [hothers]; rfl
  have hmissing : other.missingNotes = package.missingNotes := by rw [hothers]; rfl
  have hcontents : (other.paths.filterMap other.content?).Perm
      (package.paths.filterMap package.content?) := hcontent ▸ hperm.filterMap _
  obtain ⟨hholds, hnotes⟩ := package.installPaths_holds .empty package.paths hapart
  obtain ⟨hotherHolds, hotherNotes⟩ :=
    other.installPaths_holds .empty other.paths (hapart.perm (hcontents.map _))
  have hsame : (other.installPaths .empty other.paths).1.Same
      (package.installPaths .empty package.paths).1 := hotherHolds.same hholds hcontents
  constructor
  case info_eq => exact hdevice
  case models_eq => rfl
  case volumes =>
    intro name
    rw [get?_volumes_install, get?_volumes_install]
    split
    · exact .some hsame
    · cases SortedMap.get? _ name with
      | none => exact .none
      | some volume => exact .some (.refl volume)
  case units_perm =>
    change (other.paths.filterMap other.unit?).Perm (package.paths.filterMap package.unit?)
    rw [hunit]
    exact hperm.filterMap _
  case manifest_eq =>
    change manifestOn _ = manifestOn _
    rw [manifestOn, hsame.read_eq]
    rfl
  case warnings_perm =>
    change (other.installPaths .empty other.paths).2.Perm
      (package.installPaths .empty package.paths).2
    rw [hnotes, hotherNotes, hmissing]
    exact hperm.flatMap_right _

/-- A source is run even where it cannot be written. Where the files of a package do not stand in
the way of one another, they are all written as they are, and their order does not matter. -/
theorem install_delivers (package : Package) :
    List.Forall₂ (fun file unit => unit.path = file.url ∧
        package.sources[file.id]? = some unit.text)
      (package.delivered.filter (·.kind = .source)) package.install.units ∧
    (Path.Apart (package.delivered.map fun file => place file.url) →
      ∃ volume, package.install.device.files.volume? "pkg:" = some volume ∧
        package.Delivers volume ∧
        package.install.manifest = (match volume.files.get? "/manifest" with
          | some contents => .parse (String.ofList (Text.decodeLossy contents.toList))
          | none => .empty) ∧
        ∀ paths, paths.Perm package.paths →
          Installed.Same { package with paths := paths }.install package.install) := by
  refine ⟨package.forall₂_units package.paths, fun hapart => ?_⟩
  have hcontents : Path.Apart ((package.paths.filterMap package.content?).map Prod.fst) := by
    rwa [map_fst_filterMap_content?]
  obtain ⟨hholds, -⟩ := package.installPaths_holds .empty package.paths hcontents
  refine ⟨_, ?_, delivers_of_holds hholds hapart, manifestOn_of_isTree hholds.tree, ?_⟩
  · rw [FileSystem.volume?, key_packageVolume, get?_volumes_install, if_pos rfl]
  · exact fun paths hperm => same_of_perm hperm rfl hcontents

/-- A package with untidy paths, one of which has no payload. -/
def untidy : Package where
  paths := [⟨"source//./main.brs", 0, .source⟩, ⟨"images/../sounds/beep.wav", 3, .audio⟩,
    ⟨"manifest", 0, .text⟩, ⟨"source/lost.brs", 9, .source⟩]
  sources := ["print 1"]
  texts := ["title=Demo"]

theorem install_delivers_untidy :
    Path.Apart (untidy.delivered.map fun file => place file.url) ∧
      ∃ volume, untidy.install.device.files.volume? "pkg:" = some volume ∧
        volume.read "/source/main.brs" = .ok "print 1".toUTF8 ∧
        volume.read "/sounds/beep.wav" = .ok "3".toUTF8 ∧
        volume.isDirectory "/sounds" = true ∧ volume.isDirectory "/images" = false ∧
        Installed.Same { untidy with paths := untidy.paths.reverse }.install untidy.install := by
  have hplaces : (untidy.delivered.map fun file => place file.url) =
      ["/source/main.brs", "/sounds/beep.wav", "/manifest"] := by decide +kernel
  have hapart : Path.Apart (untidy.delivered.map fun file => place file.url) := by
    rw [hplaces]
    exact ⟨by decide +kernel, by decide +kernel, by decide +kernel⟩
  obtain ⟨volume, hvolume, hdelivers, -, hsame⟩ := (install_delivers untidy).2 hapart
  have hdirectory : ∀ path, volume.isDirectory path = true ↔ path = "/" ∨
      ∃ place ∈ ["/source/main.brs", "/sounds/beep.wav", "/manifest"],
        path ∈ Path.ancestors place := by
    intro path
    rw [hdelivers.isDirectory_iff, ← hplaces]
    simp only [List.mem_map, exists_exists_and_eq_and]
  refine ⟨hapart, volume, hvolume, ?_, ?_, ?_, ?_, hsame _ (List.reverse_perm _)⟩
  · have hplace : place "source//./main.brs" = "/source/main.brs" := by decide +kernel
    rw [← hplace]
    exact hdelivers.read_eq _ List.mem_cons_self _ rfl
  · have hplace : place "images/../sounds/beep.wav" = "/sounds/beep.wav" := by decide +kernel
    rw [← hplace]
    exact hdelivers.read_audio ⟨"images/../sounds/beep.wav", 3, .audio⟩ (by simp [untidy]) rfl
  · rw [hdirectory]
    decide +kernel
  · rw [Bool.eq_false_iff, Ne, hdirectory]
    decide +kernel

end Package

end BrightScript
