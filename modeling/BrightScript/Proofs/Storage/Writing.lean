import BrightScript.Proofs.Attempt
import BrightScript.Proofs.Text.LetterCase
import BrightScript.Storage.FileSystem

namespace BrightScript

/-- One file of a volume was written, and everything else on it is as it was. -/
structure Volume.Wrote (before after : Volume) (location : String) (contents : ByteArray) :
    Prop where
  directories_eq : after.directories = before.directories
  files_get? : ∀ path, after.files.get? path =
    if path = Path.normalize location then some contents else before.files.get? path

theorem Volume.wrote_of_write {before after : Volume} {location : String} {contents : ByteArray}
    (hwrite : before.write location contents = .ok after) :
    before.Wrote after location contents := by
  unfold Volume.write at hwrite
  dsimp only at hwrite
  split at hwrite
  · cases hwrite
  split at hwrite
  · cases hwrite
  obtain rfl := Except.ok.inj hwrite
  exact ⟨rfl, fun path => SortedMap.get?_insert before.files _ path contents⟩

namespace FileSystem

/-- A path names a place: a volume, by what stands up to the first colon, in lower case, and a
location on it, by what follows. -/
def Names (path volume location : String) : Prop :=
  ∃ front : List Char, front ≠ [] ∧ ':' ∉ front ∧
    path.toList = front ++ ':' :: location.toList ∧
    volume = Name.key (String.ofList (front ++ [':']))

theorem names_of_split {path volume location : String}
    (hsplit : split path = .ok (volume, location)) : Names path volume location := by
  have hpath := List.takeWhile_append_dropWhile (p := (· != ':')) (l := path.toList)
  unfold split at hsplit
  dsimp only at hsplit
  split at hsplit
  · next colon rest hrest =>
      split at hsplit
      · cases hsplit
      · next hfront =>
          obtain ⟨rfl, rfl⟩ := Prod.mk.inj (Except.ok.inj hsplit)
          have hcolon : colon = ':' := by
            have hhead := List.head_dropWhile_not (· != ':') (l := path.toList) (by simp [hrest])
            simpa [hrest] using hhead
          rw [hrest, hcolon] at hpath
          refine ⟨_, mt List.isEmpty_iff.mpr hfront, fun hmem => ?_, ?_, rfl⟩
          · have hbefore := List.all_eq_true.mp List.all_takeWhile _ hmem
            exact absurd hbefore (by decide)
          · rw [String.toList_ofList]
            exact hpath.symm
  · cases hsplit

/-- One file of one volume was written, and everything else is as it was. -/
structure Wrote (before after : FileSystem) (volume location : String) (contents : ByteArray) :
    Prop where
  others_eq : ∀ other, other ≠ volume → after.volumes.get? other = before.volumes.get? other
  written : ∃ old new, before.volumes.get? volume = some old ∧
    after.volumes.get? volume = some new ∧ old.Wrote new location contents

theorem wrote_of_writeText {before after : FileSystem} {path text : String}
    (hwrite : before.writeText path text = .ok after) :
    ∃ volume location, Names path volume location ∧ volume ∉ readOnlyVolumes ∧
      before.Wrote after volume location text.toUTF8 := by
  obtain ⟨⟨volume, location⟩, hsplit, hwrite⟩ := bind_eq_ok_iff.mp hwrite
  have hnames := names_of_split hsplit
  have hkey : Name.key volume = volume := by
    obtain ⟨front, -, -, -, rfl⟩ := hnames
    exact Name.key_key _
  dsimp only at hwrite
  split at hwrite
  · cases hwrite
  rename_i hwritable
  split at hwrite
  · cases hwrite
  · next old hold =>
      obtain ⟨new, hnew, hafter⟩ := bind_eq_ok_iff.mp hwrite
      obtain rfl := Except.ok.inj hafter
      rw [volume?, hkey] at hold
      refine ⟨volume, location, hnames, by simpa using hwritable, fun other hother => ?_, ?_⟩
      · rw [mount, SortedMap.get?_insert, hkey, if_neg hother]
      · refine ⟨old, new, hold, ?_, Volume.wrote_of_write hnew⟩
        rw [mount, SortedMap.get?_insert, hkey, if_pos rfl]

theorem volume?_of_writeText {before after : FileSystem} {path text name : String}
    (hwrite : before.writeText path text = .ok after) (hname : Name.key name ∈ readOnlyVolumes) :
    after.volume? name = before.volume? name := by
  obtain ⟨volume, location, -, hvolume, hwrote⟩ := wrote_of_writeText hwrite
  exact hwrote.others_eq _ fun hsame => hvolume (hsame ▸ hname)

end FileSystem

end BrightScript
