import BrightScript.Proofs.Storage.Contents

namespace BrightScript

theorem Volume.Wrote.read_eq_ok {before after : Volume} {location : String} {contents : ByteArray}
    (hwrote : before.Wrote after location contents) {other : String} {found : ByteArray}
    (hread : after.read other = .ok found) : before.read other = .ok found ∨ found = contents := by
  have hget := hwrote.files_get? (Path.normalize other)
  by_cases hsame : Path.normalize other = Path.normalize location
  · rw [if_pos hsame] at hget
    unfold Volume.read at hread
    dsimp only at hread
    split at hread
    · cases hread
    · rw [hget] at hread
      exact .inr (Except.ok.inj hread).symm
  · rw [if_neg hsame] at hget
    exact .inl (read_congr rfl (hwrote.isDirectory_eq _) hget ▸ hread)

namespace FileSystem

theorem readText_eq_ok_iff {files : FileSystem} {path text : String} :
    files.readText path = .ok text ↔ ∃ name location volume contents,
      split path = .ok (name, location) ∧ files.volume? name = some volume ∧
        volume.read location = .ok contents ∧ String.fromUTF8? contents = some text := by
  constructor
  · intro hread
    obtain ⟨⟨name, location⟩, hsplit, hread⟩ := bind_eq_ok_iff.mp hread
    dsimp only at hread
    split at hread
    · cases hread
    · next volume hvolume =>
        obtain ⟨contents, hcontents, hread⟩ := bind_eq_ok_iff.mp hread
        split at hread
        · next found hfound =>
            cases hread
            exact ⟨name, location, volume, contents, hsplit, hvolume, hcontents, hfound⟩
        · cases hread
  · rintro ⟨name, location, volume, contents, hsplit, hvolume, hcontents, htext⟩
    refine bind_eq_ok_iff.mpr ⟨(name, location), hsplit, ?_⟩
    dsimp only
    rw [hvolume]
    refine bind_eq_ok_iff.mpr ⟨contents, hcontents, ?_⟩
    rw [htext]

theorem fromUTF8?_toUTF8 (text : String) : String.fromUTF8? text.toUTF8 = some text := by
  rw [String.fromUTF8?, String.toUTF8_eq_toByteArray, dif_pos text.isValidUTF8]
  rfl

/-- After a program wrote a text, it reads that text, or what could be read before. -/
theorem readText_of_writeText {before after : FileSystem} {path text : String}
    (hwrite : before.writeText path text = .ok after) {other found : String}
    (hread : after.readText other = .ok found) :
    before.readText other = .ok found ∨ found = text := by
  obtain ⟨name, location, volume, contents, hsplit, hvolume, hcontents, hfound⟩ :=
    readText_eq_ok_iff.mp hread
  obtain ⟨written, place, -, -, hwrote⟩ := wrote_of_writeText hwrite
  by_cases hname : Name.key name = written
  · obtain ⟨old, new, hold, hnew, hchanged⟩ := hwrote.written
    rw [volume?, hname, hnew] at hvolume
    cases hvolume
    rcases hchanged.read_eq_ok hcontents with hbefore | rfl
    · rw [← hname] at hold
      exact .inl (readText_eq_ok_iff.mpr
        ⟨name, location, old, contents, hsplit, hold, hbefore, hfound⟩)
    · rw [fromUTF8?_toUTF8] at hfound
      exact .inr (Option.some.inj hfound).symm
  · rw [volume?, hwrote.others_eq _ hname, ← volume?] at hvolume
    exact .inl (readText_eq_ok_iff.mpr
      ⟨name, location, volume, contents, hsplit, hvolume, hcontents, hfound⟩)

end FileSystem

end BrightScript
