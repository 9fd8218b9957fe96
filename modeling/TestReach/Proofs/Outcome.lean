import Mathlib.Data.List.Basic

namespace TestReach

variable {α β ε ε' : Type} {result : β} {fault : ε}

theorem bind_eq_ok {first : Except ε α} {rest : α → Except ε β} :
    first >>= rest = .ok result ↔ ∃ value, first = .ok value ∧ rest value = .ok result := by
  cases first with
  | error fault => simp [bind, Except.bind]
  | ok value => simp [bind, Except.bind]

theorem pure_eq_ok {value : β} : (pure value : Except ε β) = .ok result ↔ value = result := by
  simp [pure, Except.pure]

theorem mapError_eq_ok {first : Except ε β} {f : ε → ε'} :
    first.mapError f = .ok result ↔ first = .ok result := by
  cases first <;> simp [Except.mapError]

theorem bind_eq_error {first : Except ε α} {rest : α → Except ε β} :
    first >>= rest = .error fault ↔
      first = .error fault ∨ ∃ value, first = .ok value ∧ rest value = .error fault := by
  cases first with
  | error fault => simp [bind, Except.bind]
  | ok value => simp [bind, Except.bind]

theorem pure_ne_error {value : β} : (pure value : Except ε β) ≠ .error fault := by
  simp [pure, Except.pure]

theorem mapError_eq_error {first : Except ε' β} {f : ε' → ε} :
    first.mapError f = .error fault ↔ ∃ fault', first = .error fault' ∧ f fault' = fault := by
  cases first <;> simp [Except.mapError]

section List

variable {f : α → Except ε β} {items : List α} {results : List β}

theorem map_eq_of_mapM (h : items.mapM f = .ok results) : items.map f = results.map .ok := by
  induction items generalizing results with
  | nil =>
    rw [List.mapM_nil, pure_eq_ok] at h
    rw [← h]
    rfl
  | cons item items ih =>
    rw [List.mapM_cons, bind_eq_ok] at h
    obtain ⟨first, hfirst, h⟩ := h
    obtain ⟨rest, hrest, h⟩ := bind_eq_ok.mp h
    obtain rfl := pure_eq_ok.mp h
    rw [List.map_cons, List.map_cons, hfirst, ih hrest]

theorem mapM_eq_ok {g : α → β} (h : ∀ item ∈ items, f item = .ok (g item)) :
    items.mapM f = .ok (items.map g) := by
  induction items with
  | nil => rfl
  | cons item items ih =>
    rw [List.mapM_cons, h item List.mem_cons_self,
      ih fun other hother => h other (List.mem_cons_of_mem _ hother)]
    rfl

theorem exists_of_mapM (h : items.mapM f = .ok results) (hresult : result ∈ results) :
    ∃ item ∈ items, f item = .ok result := by
  rw [← List.mem_map, map_eq_of_mapM h]
  exact List.mem_map_of_mem hresult

theorem exists_ok_of_mapM (h : items.mapM f = .ok results) {item : α} (hitem : item ∈ items) :
    ∃ result, f item = .ok result := by
  have hmem : f item ∈ results.map Except.ok := by
    rw [← map_eq_of_mapM h]
    exact List.mem_map_of_mem hitem
  obtain ⟨result, -, hresult⟩ := List.mem_map.mp hmem
  exact ⟨result, hresult.symm⟩

theorem map_of_mapM {g : β → α} (h : items.mapM f = .ok results)
    (hg : ∀ item result, f item = .ok result → g result = item) : results.map g = items := by
  induction items generalizing results with
  | nil =>
    rw [List.mapM_nil, pure_eq_ok] at h
    rw [← h]
    rfl
  | cons item items ih =>
    rw [List.mapM_cons, bind_eq_ok] at h
    obtain ⟨first, hfirst, h⟩ := h
    obtain ⟨rest, hrest, h⟩ := bind_eq_ok.mp h
    obtain rfl := pure_eq_ok.mp h
    rw [List.map_cons, hg item first hfirst, ih hrest]

theorem exists_error_of_mapM (h : items.mapM f = .error fault) :
    ∃ item ∈ items, f item = .error fault := by
  induction items with
  | nil => cases h
  | cons item items ih =>
    rw [List.mapM_cons] at h
    rcases bind_eq_error.mp h with hitem | ⟨result, -, h⟩
    · exact ⟨item, List.mem_cons_self, hitem⟩
    · rcases bind_eq_error.mp h with hrest | ⟨rest, -, h⟩
      · obtain ⟨later, hlater, herror⟩ := ih hrest
        exact ⟨later, List.mem_cons_of_mem _ hlater, herror⟩
      · exact absurd h pure_ne_error

end List

end TestReach
