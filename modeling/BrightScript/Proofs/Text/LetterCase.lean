import Mathlib
import BrightScript.Name

namespace BrightScript

theorem apply_toLower {α : Type} (f : Char → α)
    (hcapitals : ∀ n < 26, f (Char.ofNat (n + 65)).toLower = f (Char.ofNat (n + 65)))
    (c : Char) : f c.toLower = f c := by
  by_cases hupper : c.isUpper
  · have hrange : 65 ≤ c.toNat ∧ c.toNat ≤ 90 := by
      simp only [Char.isUpper, decide_eq_true_eq] at hupper
      exact hupper
    have hc : c = Char.ofNat (c.toNat - 65 + 65) := by
      rw [Nat.sub_add_cancel hrange.1, Char.ofNat_toNat]
    rw [hc]
    exact hcapitals _ (by omega)
  · rw [Char.toLower_eq_of_not_isUpper hupper]

theorem Name.toList_key (name : String) : (key name).toList = name.toList.map Char.toLower := by
  have hmap : key name = name.map Char.toLower := rfl
  rw [hmap, String.toList_map]

theorem Name.key_key (name : String) : key (key name) = key name := by
  change (name.map Char.toLower).map Char.toLower = name.map Char.toLower
  apply String.ext
  simp only [String.toList_map, List.map_map]
  exact List.map_congr_left fun c _ => c.toLower_toLower_eq_toLower

theorem Name.utf8ByteSize_key (name : String) : (key name).utf8ByteSize = name.utf8ByteSize := by
  rw [← String.utf8Len_toList, ← String.utf8Len_toList, toList_key]
  induction name.toList with
  | nil => rfl
  | cons c rest ih =>
      rw [List.map_cons, String.utf8Len_cons, String.utf8Len_cons, ih,
        apply_toLower Char.utf8Size (by decide)]

end BrightScript
