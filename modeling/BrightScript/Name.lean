namespace BrightScript.Name

/-- The form under which a name is looked up: its ASCII letters in lower case. -/
def key (name : String) : String := name.toLower

theorem key_eq_iff {name spelled : String} :
    key name = spelled ↔ name.toList.map Char.toLower = spelled.toList := by
  have hmap : key name = name.map Char.toLower := rfl
  rw [hmap, ← String.toList_inj, String.toList_map]

/-- Whether two spellings are the same name. -/
def same (left right : String) : Bool := key left == key right

end BrightScript.Name
