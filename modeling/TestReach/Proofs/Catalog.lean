import TestReach.Catalog

namespace TestReach.Catalog

variable {α : Type} {c d : Catalog α} {k key : String} {value : α} {entry : String × α}

theorem mem_put (h : entry ∈ c.put key value) : entry = (key, value) ∨ entry ∈ c := by
  induction c with
  | nil => simpa [put] using h
  | cons head rest ih =>
    by_cases hk : head.1 = key
    · simp only [put, if_pos hk, List.mem_cons] at h
      rcases h with rfl | h
      · exact Or.inl (by rw [hk])
      · exact Or.inr (List.mem_cons_of_mem _ h)
    · simp only [put, if_neg hk, List.mem_cons] at h
      rcases h with rfl | h
      · exact Or.inr List.mem_cons_self
      · exact (ih h).imp_right (List.mem_cons_of_mem _)

@[simp] theorem mem_keys_put : k ∈ (c.put key value).keys ↔ k = key ∨ k ∈ c.keys := by
  induction c with
  | nil => simp [put, keys]
  | cons head rest ih =>
    simp only [keys, List.map_cons, List.mem_cons] at ih ⊢
    by_cases hk : head.1 = key
    · simp [put, hk]
    · simp only [put, if_neg hk, List.map_cons, List.mem_cons, ih]
      exact or_left_comm

theorem mem_merge (h : entry ∈ c.merge d) : entry ∈ c ∨ entry ∈ d := by
  induction d generalizing c with
  | nil => exact Or.inl h
  | cons head rest ih =>
    rcases ih (c := c.put head.1 head.2) h with h | h
    · rcases mem_put h with rfl | h
      · exact Or.inr List.mem_cons_self
      · exact Or.inl h
    · exact Or.inr (List.mem_cons_of_mem _ h)

@[simp] theorem mem_keys_merge : k ∈ (c.merge d).keys ↔ k ∈ c.keys ∨ k ∈ d.keys := by
  induction d generalizing c with
  | nil => simp [merge, keys]
  | cons head rest ih =>
    have hstep : c.merge (head :: rest) = (c.put head.1 head.2).merge rest := rfl
    have hkeys : k ∈ keys (head :: rest) ↔ k = head.1 ∨ k ∈ keys rest := by simp [keys]
    rw [hstep, ih, mem_keys_put, hkeys]
    exact or_assoc.trans or_left_comm

theorem mem_ofList {entries : List (String × α)} (h : entry ∈ ofList entries) : entry ∈ entries :=
  (mem_merge h).resolve_left List.not_mem_nil

@[simp] theorem mem_keys_ofList {entries : List (String × α)} :
    k ∈ (ofList entries).keys ↔ ∃ value, (k, value) ∈ entries := by
  rw [ofList, mem_keys_merge]
  simp [keys]

theorem put_put (c : Catalog α) (key : String) (old value : α) :
    (c.put key old).put key value = c.put key value := by
  induction c with
  | nil => simp [put]
  | cons head rest ih =>
    by_cases hk : head.1 = key
    · simp [put, hk]
    · simp [put, hk, ih]

/-- A key that is present keeps its place, so that its value can be put before that of another. -/
theorem put_right_comm (hkey : key ∈ c.keys) (hk : k ≠ key) (old value : α) :
    (c.put k old).put key value = (c.put key value).put k old := by
  induction c with
  | nil => cases hkey
  | cons head rest ih =>
    by_cases hhead : head.1 = key
    · have hother : head.1 ≠ k := fun h => hk (h.symm.trans hhead)
      simp [put, hhead, Ne.symm hk]
    · have hrest : key ∈ keys rest :=
        (List.mem_cons.mp hkey).resolve_left fun h => hhead h.symm
      by_cases hsame : head.1 = k
      · simp [put, hsame, hk]
      · simp [put, hhead, hsame, ih hrest]

theorem merge_cons (c rest : Catalog α) (key : String) (value : α) :
    c.merge ((key, value) :: rest) = (c.put key value).merge rest := rfl

theorem merge_put_left (hkey : key ∈ c.keys) (hnot : key ∉ d.keys) (value : α) :
    (c.put key value).merge d = (c.merge d).put key value := by
  induction d generalizing c with
  | nil => rfl
  | cons head rest ih =>
    obtain ⟨k, old⟩ := head
    rw [keys, List.map_cons, List.mem_cons, not_or] at hnot
    rw [merge_cons, merge_cons, ← put_right_comm hkey (Ne.symm hnot.1)]
    exact ih (mem_keys_put.mpr (Or.inr hkey)) hnot.2

theorem merge_put (hnodup : d.keys.Nodup) (c : Catalog α) (key : String) (value : α) :
    c.merge (d.put key value) = (c.merge d).put key value := by
  induction d generalizing c with
  | nil => rfl
  | cons head rest ih =>
    obtain ⟨k, old⟩ := head
    obtain ⟨hnot, hrest⟩ := List.nodup_cons.mp hnodup
    by_cases hk : k = key
    · subst hk
      rw [put, if_pos rfl, merge_cons, merge_cons,
        ← merge_put_left (mem_keys_put.mpr (Or.inl rfl)) hnot, put_put]
    · rw [put, if_neg hk, merge_cons, merge_cons, ih hrest]

theorem nodup_keys_put (h : c.keys.Nodup) (key : String) (value : α) :
    (c.put key value).keys.Nodup := by
  induction c with
  | nil => simp [put, keys]
  | cons head rest ih =>
    obtain ⟨hnot, hrest⟩ := List.nodup_cons.mp h
    by_cases hk : head.1 = key
    · rw [put, if_pos hk]
      exact h
    · rw [put, if_neg hk]
      refine List.nodup_cons.mpr ⟨fun hmem => ?_, ih hrest⟩
      exact (mem_keys_put.mp hmem).elim hk hnot

theorem nodup_keys_merge (h : c.keys.Nodup) (d : Catalog α) : (c.merge d).keys.Nodup := by
  induction d generalizing c with
  | nil => exact h
  | cons head rest ih => exact ih (nodup_keys_put h _ _)

theorem put_of_not_mem (h : key ∉ c.keys) (value : α) : c.put key value = c ++ [(key, value)] := by
  induction c with
  | nil => rfl
  | cons head rest ih =>
    obtain ⟨k, old⟩ := head
    rw [keys, List.map_cons, List.mem_cons, not_or] at h
    rw [put, if_neg (Ne.symm h.1), ih h.2, List.cons_append]

theorem mem_put_iff (h : c.keys.Nodup) :
    entry ∈ c.put key value ↔ entry = (key, value) ∨ entry.1 ≠ key ∧ entry ∈ c := by
  induction c with
  | nil => simp [put]
  | cons head rest ih =>
    obtain ⟨k, old⟩ := head
    obtain ⟨hnot, hrest⟩ := List.nodup_cons.mp h
    by_cases hk : k = key
    · subst hk
      have hother : entry ∈ rest → entry.1 ≠ k := by
        rintro hmem rfl
        exact hnot (List.mem_map.mpr ⟨entry, hmem, rfl⟩)
      rw [put, if_pos rfl, List.mem_cons, List.mem_cons]
      constructor
      · rintro (rfl | hmem)
        · exact Or.inl rfl
        · exact Or.inr ⟨hother hmem, Or.inr hmem⟩
      · rintro (rfl | ⟨hne, rfl | hmem⟩)
        · exact Or.inl rfl
        · exact absurd rfl hne
        · exact Or.inr hmem
    · rw [put, if_neg hk, List.mem_cons, List.mem_cons, ih hrest]
      constructor
      · rintro (rfl | rfl | ⟨hne, hmem⟩)
        · exact Or.inr ⟨hk, Or.inl rfl⟩
        · exact Or.inl rfl
        · exact Or.inr ⟨hne, Or.inr hmem⟩
      · rintro (rfl | ⟨hne, rfl | hmem⟩)
        · exact Or.inr (Or.inl rfl)
        · exact Or.inl rfl
        · exact Or.inr (Or.inr ⟨hne, hmem⟩)

theorem get?_eq_some_iff (h : c.keys.Nodup) : c.get? key = some value ↔ (key, value) ∈ c := by
  induction c with
  | nil => simp [get?]
  | cons head rest ih =>
    obtain ⟨k, old⟩ := head
    obtain ⟨hnot, hrest⟩ := List.nodup_cons.mp h
    rw [get?, List.lookup_cons, List.mem_cons, ← ih hrest]
    by_cases hk : key = k
    · subst hk
      have hnone : (key, value) ∉ rest := fun hmem => hnot (List.mem_map.mpr ⟨_, hmem, rfl⟩)
      simp [ih hrest, hnone, eq_comm]
    · have hother : (key == k) = false := by simpa using hk
      simp [hother, hk, get?]

theorem get?_cons (c : Catalog α) (key : String) (value : α) (k : String) :
    get? ((key, value) :: c) k = if k = key then some value else c.get? k := by
  rw [get?, List.lookup_cons]
  by_cases hk : k = key
  · simp [hk]
  · have hother : (k == key) = false := by simpa using hk
    rw [hother, if_neg hk]
    rfl

theorem get?_put (c : Catalog α) (key : String) (value : α) (k : String) :
    (c.put key value).get? k = if k = key then some value else c.get? k := by
  induction c with
  | nil => exact get?_cons [] key value k
  | cons head rest ih =>
    obtain ⟨first, old⟩ := head
    rw [put, get?_cons]
    split
    · rename_i hfirst
      rw [get?_cons, hfirst]
      split <;> rfl
    · rename_i hfirst
      rw [get?_cons, ih]
      split
      · rename_i hk
        rw [if_neg (by rw [hk]; exact hfirst)]
      · rfl

theorem get?_merge (c d : Catalog α) (k : String) :
    (c.merge d).get? k = (get? d.reverse k).or (c.get? k) := by
  induction d generalizing c with
  | nil => rfl
  | cons head rest ih =>
    obtain ⟨key, value⟩ := head
    have hreverse : get? ((key, value) :: rest).reverse k =
        (get? rest.reverse k).or (get? [(key, value)] k) := by
      rw [List.reverse_cons, get?, List.lookup_append]
      rfl
    rw [merge_cons, ih, get?_put, hreverse, Option.or_assoc, get?_cons]
    split <;> rfl

theorem get?_ofList (entries : List (String × α)) (k : String) :
    (ofList entries).get? k = get? entries.reverse k := by
  rw [ofList, get?_merge]
  exact Option.or_none

theorem merge_merge (hnodup : d.keys.Nodup) (c : Catalog α) (entries : List (String × α)) :
    c.merge (d.merge entries) = (c.merge d).merge entries := by
  induction entries generalizing d with
  | nil => rfl
  | cons head rest ih =>
    obtain ⟨key, value⟩ := head
    rw [merge_cons, merge_cons, ih (nodup_keys_put hnodup key value), merge_put hnodup]

theorem merge_ofList (c : Catalog α) (entries : List (String × α)) :
    c.merge (ofList entries) = c.merge entries := by
  have hnodup : (keys ([] : Catalog α)).Nodup := List.nodup_nil
  exact merge_merge hnodup c entries

end TestReach.Catalog
