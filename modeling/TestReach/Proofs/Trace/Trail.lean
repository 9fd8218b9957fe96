import TestReach.Proofs.Catalog
import TestReach.Proofs.Trace.Returns

namespace TestReach

theorem Match.Within.unique {m : Match} {next next' : Term} (h : m.Within next)
    (h' : m.Within next') : next = next' :=
  Except.ok.inj (h.2.symm.trans h'.2)

namespace Trace

variable {survey : Survey} {depth : Nat} {task : Task} {claimed : List String}
  {cases : TestCase.Cases} {trail : Trail} {results : List FileResult} {k : String}

theorem mem_casesOf {entry : String × TestCase} (h : entry ∈ casesOf results) :
    ∃ result ∈ results, result.info.identifier ≠ "" ∧
      entry = (result.info.identifier, ⟨result.path, result.info⟩) := by
  obtain ⟨result, hresult, rfl⟩ := List.mem_map.mp (Catalog.mem_ofList h)
  obtain ⟨hmem, hid⟩ := List.mem_filter.mp hresult
  exact ⟨result, hmem, by simpa using hid, rfl⟩

theorem mem_keys_casesOf :
    k ∈ (casesOf results).keys ↔ k ≠ "" ∧ ∃ result ∈ results, result.info.identifier = k := by
  rw [casesOf, Catalog.mem_keys_ofList]
  simp only [List.mem_map, List.mem_filter, Prod.mk.injEq]
  constructor
  · rintro ⟨_, result, ⟨hmem, hid⟩, rfl, _⟩
    exact ⟨by simpa using hid, result, hmem, rfl⟩
  · rintro ⟨hk, result, hmem, rfl⟩
    exact ⟨_, result, ⟨hmem, by simpa using hk⟩, rfl, rfl⟩

theorem claims_fresh_append {text : String} {first second : List String} (hnew : text ∉ claimed)
    (hfirst : first.Nodup ∧ ∀ other ∈ first, other ∉ claimed ++ [text])
    (hsecond : second.Nodup ∧ ∀ other ∈ second, other ∉ claimed ++ [text] ++ first) :
    ([text] ++ first ++ second).Nodup ∧ ∀ other ∈ [text] ++ first ++ second, other ∉ claimed := by
  obtain ⟨hnodupFirst, hfreshFirst⟩ := hfirst
  obtain ⟨hnodupSecond, hfreshSecond⟩ := hsecond
  simp only [List.mem_append, List.mem_singleton, not_or] at hfreshFirst hfreshSecond
  simp only [List.nil_append, List.cons_append, List.nodup_cons, List.nodup_append, List.mem_cons,
    List.mem_append, not_or]
  refine ⟨⟨⟨fun hmem => (hfreshFirst _ hmem).2 rfl, fun hmem => (hfreshSecond _ hmem).1.2 rfl⟩,
    hnodupFirst, hnodupSecond, ?_⟩, ?_⟩
  · rintro other hmem _ hmem' rfl
    exact (hfreshSecond _ hmem').2 hmem
  · rintro other (rfl | hmem | hmem)
    · exact hnew
    · exact (hfreshFirst _ hmem).1
    · exact (hfreshSecond _ hmem).1.1

theorem Returns.claimed_fresh (h : Returns survey depth task claimed cases trail) :
    trail.claimed.Nodup ∧ ∀ text ∈ trail.claimed, text ∉ claimed := by
  induction h with
  | spent | ambiguous | done => simp
  | round _ _ _ ih => simpa using ih
  | orphan _ _ ih | known _ _ _ ih => exact ih
  | extended _ hnew _ _ ihFirst ihRest => exact claims_fresh_append hnew ihFirst ihRest

theorem Returns.scanned_sublist (h : Returns survey depth task claimed cases trail) :
    (trail.scanned.map Term.text).Sublist (task.entry ++ trail.claimed) := by
  induction h with
  | spent | ambiguous | done => simp
  | round _ _ _ ih => simpa using ih
  | orphan _ _ ih | known _ _ _ ih => exact ih
  | extended _ _ _ _ ihFirst ihRest =>
    simp only [Task.entry, List.nil_append, Trail.scanned_append, List.map_append,
      Trail.claimed_append] at ihFirst ihRest ⊢
    exact ihFirst.append ihRest

theorem Returns.named_of_claimed (h : Returns survey depth task claimed cases trail) {text : String}
    (htext : text ∈ trail.claimed) :
    ∃ next, next.text = text ∧ ((∃ m ∈ task.uses, m.Within next) ∨
      ∃ result ∈ trail.committed, result.Names next) := by
  induction h with
  | spent | ambiguous | done => simp at htext
  | round _ _ _ ih =>
    obtain ⟨next, hnext, hnames⟩ := ih (by simpa using htext)
    simp only [Task.uses, exists_use_within] at hnames
    refine ⟨next, hnext, Or.inr ?_⟩
    simpa [or_and_right, exists_or] using hnames
  | orphan _ _ ih | known _ _ _ ih =>
    obtain ⟨next, hnext, hnames⟩ := ih htext
    refine ⟨next, hnext, hnames.imp_left ?_⟩
    rintro ⟨m, hm, hwithin⟩
    exact ⟨m, List.mem_cons_of_mem _ hm, hwithin⟩
  | @extended _ _ m rest _ _ _ first second next hwithin _ _ _ ihFirst ihRest =>
    simp only [Trail.claimed_append, List.mem_append, List.mem_singleton] at htext
    rcases htext with (rfl | htext) | htext
    · exact ⟨next, rfl, Or.inl ⟨m, List.mem_cons_self, hwithin⟩⟩
    · obtain ⟨next', hnext', hnames⟩ := ihFirst htext
      obtain ⟨result, hresult, hnames⟩ := hnames.resolve_left (by simp)
      exact ⟨next', hnext', Or.inr ⟨result, by simp [hresult], hnames⟩⟩
    · obtain ⟨next', hnext', ⟨m', hm', hwithin'⟩ | ⟨result, hresult, hnames⟩⟩ := ihRest htext
      · exact ⟨next', hnext', Or.inl ⟨m', List.mem_cons_of_mem _ hm', hwithin'⟩⟩
      · exact ⟨next', hnext', Or.inr ⟨result, by simp [hresult], hnames⟩⟩

theorem Returns.scanned_trace {term : Term}
    (h : Returns survey depth (.trace term) claimed cases trail) :
    trail.scanned = [] ∨ ∃ rest, trail.scanned = term :: rest := by
  cases h with
  | spent => exact Or.inl rfl
  | ambiguous => exact Or.inr ⟨[], rfl⟩
  | round => exact Or.inr ⟨_, rfl⟩

/-- Nothing is scanned for, the term of a trace itself apart, but what a use or a committed result
names. -/
theorem Returns.named_of_scanned (h : Returns survey depth task claimed cases trail) {next : Term}
    (hnext : next ∈ trail.scanned.drop task.entry.length) :
    (∃ m ∈ task.uses, m.Within next) ∨ ∃ result ∈ trail.committed, result.Names next := by
  induction h with
  | spent | ambiguous | done => simp at hnext
  | round _ _ _ ih =>
    have hnames := ih (by simpa using hnext)
    simp only [Task.uses, exists_use_within] at hnames
    refine Or.inr ?_
    simpa [or_and_right, exists_or] using hnames
  | orphan _ _ ih | known _ _ _ ih =>
    refine (ih hnext).imp_left ?_
    rintro ⟨m, hm, hwithin⟩
    exact ⟨m, List.mem_cons_of_mem _ hm, hwithin⟩
  | @extended _ _ m _ _ _ _ _ _ _ hwithin _ hfirst _ ihFirst ihRest =>
    simp only [Task.entry, List.length_nil, List.drop_zero, Trail.scanned_append, List.nil_append,
      List.mem_append] at hnext
    rcases hnext with hnext | hnext
    · -- The trace of the name of `m` scans first for that name.
      rcases hfirst.scanned_trace with hnone | ⟨later, hlater⟩
      · simp [hnone] at hnext
      · rw [hlater, List.mem_cons] at hnext
        rcases hnext with rfl | hnext
        · exact Or.inl ⟨m, List.mem_cons_self, hwithin⟩
        · obtain ⟨result, hresult, hnames⟩ :=
            (ihFirst (by simpa [hlater] using hnext)).resolve_left (by simp)
          exact Or.inr ⟨result, by simp [hresult], hnames⟩
    · rcases ihRest (by simpa using hnext) with ⟨m', hm', hwithin'⟩ | ⟨result, hresult, hnames⟩
      · exact Or.inl ⟨m', List.mem_cons_of_mem _ hm', hwithin'⟩
      · exact Or.inr ⟨result, by simp [hresult], hnames⟩

theorem Returns.claimed_of_named (h : Returns survey depth task claimed cases trail) {next : Term}
    (hnext : (∃ m ∈ task.uses, m.Within next) ∨ ∃ result ∈ trail.committed, result.Names next) :
    next.text ∈ claimed ++ trail.claimed := by
  induction h with
  | spent | ambiguous | done => simp at hnext
  | round _ _ _ ih =>
    apply ih
    rw [Task.uses, exists_use_within]
    simpa [or_and_right, exists_or] using hnext
  | orphan hroutine _ ih =>
    apply ih
    refine hnext.imp_left ?_
    rintro ⟨m, hm, hwithin⟩
    rcases List.mem_cons.mp hm with rfl | hm
    · exact absurd hroutine hwithin.1
    · exact ⟨m, hm, hwithin⟩
  | known hwithin hknown _ ih =>
    -- The name of `m` itself is among the claims the task began with.
    rcases hnext with ⟨m, hm, hwithin'⟩ | hnames
    · rcases List.mem_cons.mp hm with rfl | hm
      · rw [hwithin'.unique hwithin]
        exact List.mem_append_left _ hknown
      · exact ih (Or.inl ⟨m, hm, hwithin'⟩)
    · exact ih (Or.inr hnames)
  | @extended _ _ m rest claimed _ _ first second new hwithin _ _ _ ihFirst ihRest =>
    have hsplit : claimed ++ ({ claimed := [new.text] } ++ first ++ second : Trail).claimed =
        claimed ++ [new.text] ++ first.claimed ++ second.claimed := by simp
    rw [hsplit]
    rcases hnext with ⟨m', hm', hwithin'⟩ | ⟨result, hresult, hnames⟩
    · rcases List.mem_cons.mp hm' with rfl | hm'
      · rw [hwithin'.unique hwithin]
        simp
      · exact ihRest (Or.inl ⟨m', hm', hwithin'⟩)
    · simp only [Trail.committed_append, List.nil_append, List.mem_append] at hresult
      rcases hresult with hresult | hresult
      · exact List.mem_append_left _ (ihFirst (Or.inr ⟨result, hresult, hnames⟩))
      · exact ihRest (Or.inr ⟨result, hresult, hnames⟩)

theorem Returns.mem_committed (h : Returns survey depth task claimed cases trail)
    {result : FileResult} :
    result ∈ trail.committed ↔ ∃ term ∈ trail.scanned, Keeps survey term result := by
  induction h with
  | spent | done => simp
  | ambiguous hsurvey hround => simp [keeps_iff hsurvey, hround]
  | round hsurvey hround _ ih => simp [keeps_iff hsurvey, hround, ih]
  | orphan _ _ ih | known _ _ _ ih => exact ih
  | extended _ _ _ _ ihFirst ihRest => simp [ihFirst, ihRest, or_and_right, exists_or]

theorem Returns.mem_cases (h : Returns survey depth task claimed cases trail)
    {entry : String × TestCase} (hentry : entry ∈ cases) :
    entry ∈ task.found ∨ ∃ result ∈ trail.committed, result.info.identifier ≠ "" ∧
      entry = (result.info.identifier, ⟨result.path, result.info⟩) := by
  induction h with
  | spent | ambiguous => simp at hentry
  | done => exact Or.inl hentry
  | round _ _ _ ih =>
    rcases Catalog.mem_merge hentry with hentry | hentry
    · obtain ⟨result, hresult, hcase⟩ := mem_casesOf hentry
      exact Or.inr ⟨result, by simp [hresult], hcase⟩
    · obtain ⟨result, hresult, hcase⟩ := (ih hentry).resolve_left (by simp)
      exact Or.inr ⟨result, by simp [hresult], hcase⟩
  | orphan _ _ ih | known _ _ _ ih => exact ih hentry
  | extended _ _ _ _ ihFirst ihRest =>
    rcases ihRest hentry with hentry | ⟨result, hresult, hcase⟩
    · rcases Catalog.mem_merge hentry with hentry | hentry
      · exact Or.inl hentry
      · obtain ⟨result, hresult, hcase⟩ := (ihFirst hentry).resolve_left (by simp)
        exact Or.inr ⟨result, by simp [hresult], hcase⟩
    · exact Or.inr ⟨result, by simp [hresult], hcase⟩

theorem Returns.nodup_keys (h : Returns survey depth task claimed cases trail)
    (hfound : task.found.keys.Nodup) : cases.keys.Nodup := by
  induction h with
  | spent | ambiguous => exact List.nodup_nil
  | done => exact hfound
  | round =>
    have hnil : (Catalog.keys ([] : TestCase.Cases)).Nodup := List.nodup_nil
    exact Catalog.nodup_keys_merge (Catalog.nodup_keys_merge hnil _) _
  | orphan _ _ ih | known _ _ _ ih => exact ih hfound
  | extended _ _ _ _ _ ihRest => exact ihRest (Catalog.nodup_keys_merge hfound _)

theorem Returns.mem_keys (h : Returns survey depth task claimed cases trail) :
    k ∈ cases.keys ↔ k ∈ task.found.keys ∨
      k ≠ "" ∧ ∃ result ∈ trail.committed, result.info.identifier = k := by
  induction h with
  | spent | ambiguous | done => simp [Catalog.keys]
  | round _ _ _ ih =>
    rw [Catalog.mem_keys_merge, ih, mem_keys_casesOf]
    simp [Catalog.keys, or_and_right, exists_or, and_or_left]
  | orphan _ _ ih | known _ _ _ ih => exact ih
  | extended _ _ _ _ ihFirst ihRest =>
    rw [ihRest, Task.found, Catalog.mem_keys_merge, ihFirst]
    simp [Catalog.keys, or_and_right, exists_or, and_or_left, or_assoc]

end Trace
end TestReach
