import Mathlib
import BrightScript.Pattern.Template

namespace BrightScript.Pattern

/-- A part of a replacement. -/
inductive Part where
  | char (c : Char)
  | group (digit : Char)

namespace Part

/-- How the part is written in a replacement. -/
def spelling : Part → List Char
  | char c => [c]
  | group digit => ['\\', digit]

/-- How the part is written in a template. -/
def mark : Part → List Char
  | char c => if c = '$' then ['$', '$'] else [c]
  | group digit => ['$', '\x7b', digit, '\x7d']

/-- What the part stands for; a group that is absent stands for nothing. -/
def text (groups : Nat → Option (List Char)) : Part → List Char
  | char c => [c]
  | group digit => (groups (digit.toNat - '0'.toNat)).getD []

/-- Whether the part is a digit that stands for itself. -/
def IsDigit : Part → Prop
  | char c => c.isDigit = true
  | group _ => False

end Part

/-- The parts of a replacement, from left to right. -/
def scanned : List Char → List Part
  | '\\' :: d :: rest =>
    if d.isDigit then .group d :: scanned rest else .char '\\' :: scanned (d :: rest)
  | c :: rest => .char c :: scanned rest
  | [] => []

/-- The replacement with the texts of groups in place of their marks. -/
def substitute (groups : Nat → Option (List Char)) (replacement : List Char) : List Char :=
  (scanned replacement).flatMap (Part.text groups)

/-- Parts that a replacement can be read as: they are what is written there, marks of groups have a
digit, and no backslash that stands for itself is directly followed by a digit. -/
structure Reads (parts : List Part) (replacement : List Char) : Prop where
  written : parts.flatMap Part.spelling = replacement
  digits : ∀ digit, Part.group digit ∈ parts → digit.isDigit = true
  marked : parts.IsChain fun part next => part = .char '\\' → ¬ next.IsDigit

/-- What the marks of a template mean to a way of filling it in. -/
structure Fills (groups : Nat → Option (List Char)) (fill : List Char → List Char) : Prop where
  nil : fill [] = []
  dollar : ∀ rest, fill ('$' :: '$' :: rest) = '$' :: fill rest
  group : ∀ digit rest, digit.isDigit = true →
    fill ('$' :: '\x7b' :: digit :: '\x7d' :: rest) =
      (groups (digit.toNat - '0'.toNat)).getD [] ++ fill rest
  other : ∀ c rest, c ≠ '$' → fill (c :: rest) = c :: fill rest

variable {groups : Nat → Option (List Char)} {fill : List Char → List Char}
  {parts : List Part} {replacement : List Char}

theorem scanned_cons_of_ne {c : Char} (hc : c ≠ '\\') (rest : List Char) :
    scanned (c :: rest) = .char c :: scanned rest := by
  rw [scanned]
  rintro d others ⟨⟩
  exact absurd rfl hc

theorem scanned_group {digit : Char} (hdigit : digit.isDigit = true) (rest : List Char) :
    scanned ('\\' :: digit :: rest) = .group digit :: scanned rest := by
  rw [scanned, if_pos hdigit]

theorem scanned_backslash {rest : List Char} (hrest : ∀ c ∈ rest.head?, c.isDigit = false) :
    scanned ('\\' :: rest) = .char '\\' :: scanned rest := by
  cases rest with
  | nil => rfl
  | cons c others =>
      have hc : ¬ c.isDigit = true := Bool.eq_false_iff.mp (hrest c rfl)
      rw [scanned, if_neg hc]

theorem isDigit_of_head_scanned {rest : List Char} {part : Part}
    (hpart : part ∈ (scanned rest).head?) (hdigit : part.IsDigit) :
    ∃ c ∈ rest.head?, c.isDigit = true := by
  unfold scanned at hpart
  split at hpart
  · split at hpart <;> cases hpart
    · cases hdigit
    · cases hdigit
  · cases hpart
    exact ⟨_, rfl, hdigit⟩
  · cases hpart

theorem reads_scanned (replacement : List Char) : Reads (scanned replacement) replacement := by
  induction replacement using scanned.induct with
  | case1 d rest hdigit ih =>
      rw [scanned_group hdigit]
      refine ⟨?_, ?_, ?_⟩
      · rw [List.flatMap_cons, ih.written]
        rfl
      · intro digit hmem
        rcases List.mem_cons.mp hmem with hsame | hmem
        · cases hsame
          exact hdigit
        · exact ih.digits digit hmem
      · exact List.isChain_cons.mpr ⟨fun _ _ hsame => (nomatch hsame), ih.marked⟩
  | case2 d rest hdigit ih =>
      have hrest : ∀ c ∈ (d :: rest).head?, c.isDigit = false := by
        rintro c ⟨⟩
        exact Bool.eq_false_iff.mpr hdigit
      rw [scanned_backslash hrest]
      refine ⟨?_, ?_, ?_⟩
      · rw [List.flatMap_cons, ih.written]
        rfl
      · intro digit hmem
        exact ih.digits digit ((List.mem_cons.mp hmem).resolve_left nofun)
      · refine List.isChain_cons.mpr ⟨fun next hnext _ hisDigit => ?_, ih.marked⟩
        obtain ⟨c, hc, hcDigit⟩ := isDigit_of_head_scanned hnext hisDigit
        rw [hrest c hc] at hcDigit
        cases hcDigit
  | case3 c rest hother ih =>
      have hscanned : scanned (c :: rest) = .char c :: scanned rest := by
        rw [scanned]
        exact hother
      rw [hscanned]
      refine ⟨?_, ?_, ?_⟩
      · rw [List.flatMap_cons, ih.written]
        rfl
      · intro digit hmem
        exact ih.digits digit ((List.mem_cons.mp hmem).resolve_left nofun)
      · -- a backslash is read so only where nothing is behind it
        refine List.isChain_cons.mpr ⟨fun next hnext hbackslash _ => ?_, ih.marked⟩
        obtain rfl := Part.char.inj hbackslash
        cases rest with
        | nil => cases hnext
        | cons d others => exact hother d others rfl rfl
  | case4 => exact ⟨rfl, fun _ => nofun, .nil⟩

theorem Reads.tail {part : Part} (hreads : Reads (part :: parts) replacement) :
    Reads parts (parts.flatMap Part.spelling) where
  written := rfl
  digits digit hmem := hreads.digits digit (List.mem_cons_of_mem _ hmem)
  marked := hreads.marked.tail

/-- There is one way to read a replacement. -/
theorem Reads.eq_scanned (hreads : Reads parts replacement) : parts = scanned replacement := by
  induction parts generalizing replacement with
  | nil =>
      rw [← hreads.written]
      rfl
  | cons part rest ih =>
      have hrest := ih hreads.tail
      rw [← hreads.written, List.flatMap_cons]
      cases part with
      | group digit =>
          have hdigit := hreads.digits digit List.mem_cons_self
          exact (congrArg _ hrest).trans (scanned_group hdigit _).symm
      | char c =>
          by_cases hc : c = '\\'
          · subst hc
            refine (congrArg _ hrest).trans (scanned_backslash fun next hnext => ?_).symm
            cases rest with
            | nil => cases hnext
            | cons behind others =>
                cases behind with
                | group digit =>
                    cases hnext
                    decide
                | char d =>
                    cases hnext
                    have hplain := (List.isChain_cons.mp hreads.marked).1 _ rfl rfl
                    exact Bool.eq_false_iff.mpr hplain
          · exact (congrArg _ hrest).trans (scanned_cons_of_ne hc _).symm

theorem reads_iff : Reads parts replacement ↔ parts = scanned replacement :=
  ⟨Reads.eq_scanned, fun hparts => hparts ▸ reads_scanned replacement⟩

theorem template_eq (replacement : List Char) :
    template replacement = (scanned replacement).flatMap Part.mark := by
  induction replacement using template.induct with
  | case1 => rfl
  | case2 d rest hdigit ih =>
      rw [template, if_pos hdigit, ih, scanned_group hdigit]
      rfl
  | case3 d rest hdigit ih =>
      rw [template, if_neg hdigit, ih, scanned, if_neg hdigit]
      rfl
  | case4 rest hother ih =>
      rw [scanned_cons_of_ne (by decide), List.flatMap_cons, ← ih, template]
      · rfl
      · exact hother
  | case5 c rest hother hplain ih =>
      rw [template, if_neg hplain, ih, scanned, List.flatMap_cons, Part.mark, if_neg hplain]
      · rfl
      · exact hother
      · exact hother

theorem Fills.mark (hfill : Fills groups fill) {part : Part}
    (hpart : ∀ digit, part = .group digit → digit.isDigit = true) (rest : List Char) :
    fill (part.mark ++ rest) = part.text groups ++ fill rest := by
  cases part with
  | group digit => exact hfill.group digit rest (hpart digit rfl)
  | char c =>
      by_cases hc : c = '$'
      · rw [Part.mark, if_pos hc, hc]
        exact hfill.dollar rest
      · rw [Part.mark, if_neg hc]
        exact hfill.other c rest hc

theorem Fills.flatMap_mark (hfill : Fills groups fill)
    (hparts : ∀ digit, Part.group digit ∈ parts → digit.isDigit = true) :
    fill (parts.flatMap Part.mark) = parts.flatMap (Part.text groups) := by
  induction parts with
  | nil => exact hfill.nil
  | cons part rest ih =>
      rw [List.flatMap_cons, List.flatMap_cons, hfill.mark, ih]
      · exact fun digit hmem => hparts digit (List.mem_cons_of_mem _ hmem)
      · exact fun digit hsame => hparts digit (hsame ▸ List.mem_cons_self)

theorem Fills.template (hfill : Fills groups fill) (replacement : List Char) :
    fill (template replacement) = substitute groups replacement := by
  rw [template_eq]
  exact hfill.flatMap_mark (reads_scanned replacement).digits

theorem fills_expand (groups : Nat → Option (List Char)) :
    Fills groups (expand fun i => (groups i).getD []) where
  nil := by rw [expand]
  dollar rest := by rw [expand]
  group digit rest hdigit := by rw [expand, if_pos hdigit]
  other c rest hc := by
    rw [expand]
    · exact fun _ hdollar => absurd hdollar hc
    · exact fun _ _ hdollar => absurd hdollar hc

/-- Replacing matches puts in the replacement with the texts of the groups of each match. -/
theorem replace_eq (pattern : Pattern) (text replacement : String) (all : Bool) :
    let chars := text.toList.toArray
    let found := if all then pattern.matchesIn chars else (pattern.find? chars).toList
    pattern.replace text replacement all = String.ofList (replaceMatches chars
      (fun groups => substitute (groups[·]?) replacement.toList) 0 found) := by
  intro chars found
  have hfill : (fun groups : List (List Char) =>
      expand (fun i => groups.getD i []) (template replacement.toList)) =
        fun groups => substitute (groups[·]?) replacement.toList := by
    funext groups
    exact (fills_expand (groups[·]?)).template replacement.toList
  exact congrArg (fun fill => String.ofList (replaceMatches chars fill 0 found)) hfill

/-- A replacement can be read in one way, and however its template is filled in by rules that give
the marks of the template their meaning, it comes to the texts of the parts that were read. This is
what replacing puts in the place of a match. -/
theorem template_keeps_meaning (replacement : String) :
    (∀ parts, Reads parts replacement.toList ↔ parts = scanned replacement.toList) ∧
    (∀ groups fill, Fills groups fill →
      fill (template replacement.toList) = substitute groups replacement.toList) ∧
    ∀ (pattern : Pattern) (text : String) (all : Bool),
      let chars := text.toList.toArray
      let found := if all then pattern.matchesIn chars else (pattern.find? chars).toList
      pattern.replace text replacement all = String.ofList (replaceMatches chars
        (fun groups => substitute (groups[·]?) replacement.toList) 0 found) :=
  ⟨fun _ => reads_iff, fun _ _ hfill => hfill.template _, fun pattern text all =>
    replace_eq pattern text replacement all⟩

/-- Backslashes, dollar signs and brackets next to each other, with one group that is absent. -/
theorem template_keeps_meaning_of_neighbours :
    let groups : Nat → Option (List Char) := fun i => if i = 1 then some ['a', 'b'] else none
    let fill := expand fun i => (groups i).getD []
    Fills groups fill ∧ fill (template "\\\\12\\3$\x7b1\x7d\\".toList) =
      "\\ab2$\x7b1\x7d\\".toList := by
  intro groups fill
  have hfill : Fills groups fill := fills_expand groups
  exact ⟨hfill, ((template_keeps_meaning _).2.1 groups fill hfill).trans rfl⟩

end BrightScript.Pattern
