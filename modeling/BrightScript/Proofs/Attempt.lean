namespace BrightScript

variable {ε δ α β : Type}

theorem bind_eq_ok_iff {first : Except ε α} {next : α → Except ε β} {result : β} :
    first >>= next = .ok result ↔ ∃ value, first = .ok value ∧ next value = .ok result := by
  cases first with
  | error e => simp [bind, Except.bind]
  | ok value => simp [bind, Except.bind]

theorem bind_eq_error_iff {first : Except ε α} {next : α → Except ε β} {e : ε} :
    first >>= next = .error e ↔
      first = .error e ∨ ∃ value, first = .ok value ∧ next value = .error e := by
  cases first with
  | error e => simp [bind, Except.bind]
  | ok value => simp [bind, Except.bind]

theorem bind_eq_of_eq {σ : Type} {m : Type → Type} [Monad m] [LawfulMonad m]
    {first : StateT σ m α} {next : α → StateT σ m β} {result : m α} {state after : σ}
    (hfirst : first state = (·, after) <$> result) :
    (first >>= next) state = result >>= fun value => next value after := by
  change first state >>= (fun step => next step.1 step.2) = _
  rw [hfirst, bind_map_left]

theorem mapError_eq_ok_iff {first : Except ε α} {change : ε → δ} {result : α} :
    first.mapError change = .ok result ↔ first = .ok result := by
  cases first with
  | error e => exact iff_of_false nofun nofun
  | ok value =>
      change (Except.ok value : Except δ α) = .ok result ↔ _
      simp only [Except.ok.injEq]

theorem map_eq_ok_iff {first : Except ε α} {change : α → β} {result : β} :
    change <$> first = .ok result ↔ ∃ value, first = .ok value ∧ change value = result := by
  cases first with
  | error e => simp [Functor.map, Except.map]
  | ok value => simp [Functor.map, Except.map]

section List

variable {f : α → Except ε β} {items : List α}

theorem exists_of_mapM_eq_ok {results : List β} (hresults : items.mapM f = .ok results) :
    ∀ item ∈ items, ∃ result, f item = .ok result := by
  induction items generalizing results with
  | nil =>
      intro item hitem
      cases hitem
  | cons item rest ih =>
      rw [List.mapM_cons] at hresults
      obtain ⟨result, hresult, hothers⟩ := bind_eq_ok_iff.mp hresults
      obtain ⟨others, hrest, -⟩ := bind_eq_ok_iff.mp hothers
      exact List.forall_mem_cons.mpr ⟨⟨result, hresult⟩, ih hrest⟩

theorem exists_of_mapM_eq_error {e : ε} (herror : items.mapM f = .error e) :
    ∃ (place : Nat) (item : α), items[place]? = some item ∧ f item = .error e ∧
      ∀ earlier < place, ∀ other, items[earlier]? = some other →
        ∃ result, f other = .ok result := by
  induction items with
  | nil => cases herror
  | cons item rest ih =>
      rw [List.mapM_cons] at herror
      rcases bind_eq_error_iff.mp herror with hitem | ⟨result, hitem, hothers⟩
      · refine ⟨0, item, rfl, hitem, ?_⟩
        intro earlier hearlier
        omega
      · rcases bind_eq_error_iff.mp hothers with hrest | ⟨results, -, hpure⟩
        · obtain ⟨place, found, hplace, hfound, hbefore⟩ := ih hrest
          refine ⟨place + 1, found, hplace, hfound, ?_⟩
          rintro (_ | earlier) hless other hother
          · cases hother
            exact ⟨result, hitem⟩
          · exact hbefore earlier (by omega) other hother
        · cases hpure

end List

end BrightScript
