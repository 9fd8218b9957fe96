import Mathlib.Data.List.Basic
import TestReach.Round

namespace TestReach

def declarationsOf (results : List FileResult) : List Match :=
  results.flatMap fun result => result.hits.filter (·.isDeclaration)

theorem mem_declarationsOf {results : List FileResult} {m : Match} :
    m ∈ declarationsOf results ↔ ∃ result ∈ results, m ∈ result.hits ∧ m.isDeclaration = true := by
  simp [declarationsOf]

theorem length_declarationsOf_cons (first : FileResult) (rest : List FileResult) :
    (declarationsOf (first :: rest)).length =
      first.declarationCount + (declarationsOf rest).length := by
  rw [declarationsOf, List.flatMap_cons, List.length_append]
  rfl

def Decision.ofCount : Nat → Decision
  | 0 => .noDeclarations
  | 1 => .unique
  | _ + 2 => .ambiguous

@[simp] theorem Decision.ofCount_eq_noDeclarations {n : Nat} :
    ofCount n = .noDeclarations ↔ n = 0 := by
  rcases n with _ | _ | n <;> simp [ofCount]

@[simp] theorem Decision.ofCount_eq_unique {n : Nat} : ofCount n = .unique ↔ n = 1 := by
  rcases n with _ | _ | n <;> simp [ofCount]

@[simp] theorem Decision.ofCount_eq_ambiguous {n : Nat} : ofCount n = .ambiguous ↔ 2 ≤ n := by
  rcases n with _ | _ | n <;> simp [ofCount]

/-- What a round keeps of a result: its uses, if there are any. -/
def FileResult.kept? (result : FileResult) : Option FileResult :=
  if result.uses.isEmpty then none else some { result with hits := result.uses }

namespace Round

theorem decision_classifyFrom {declarations : Nat} (hfew : declarations ≤ 1) (kept : List FileResult)
    (results : List FileResult) : (classifyFrom declarations kept results).decision =
      .ofCount (declarations + (declarationsOf results).length) := by
  induction results generalizing declarations kept with
  | nil =>
    rcases Nat.le_one_iff_eq_zero_or_eq_one.mp hfew with rfl | rfl <;> rfl
  | cons first rest ih =>
    rw [length_declarationsOf_cons, ← Nat.add_assoc]
    unfold classifyFrom
    dsimp only
    split
    · rename_i hmany
      exact (Decision.ofCount_eq_ambiguous.mpr (by omega)).symm
    · rename_i hfew
      split
      · exact ih (by omega) _
      · exact ih (by omega) _

theorem decision_classify (results : List FileResult) :
    (classify results).decision = .ofCount (declarationsOf results).length := by
  rw [classify, decision_classifyFrom (Nat.zero_le 1), Nat.zero_add]

theorem results_classifyFrom {declarations : Nat} (hfew : declarations ≤ 1) (kept : List FileResult)
    (results : List FileResult) : (classifyFrom declarations kept results).results =
      if declarations + (declarationsOf results).length ≤ 1 then
        kept ++ results.filterMap FileResult.kept? else [] := by
  induction results generalizing declarations kept with
  | nil => simp [classifyFrom, declarationsOf, hfew]
  | cons first rest ih =>
    rw [length_declarationsOf_cons, ← Nat.add_assoc]
    unfold classifyFrom
    dsimp only
    split
    · rename_i hmany
      rw [if_neg (by omega)]
    · rename_i hfew
      split
      · rename_i huses
        rw [ih (by omega), List.filterMap_cons_none (by rw [FileResult.kept?, if_pos huses])]
      · rename_i huses
        rw [ih (by omega), List.filterMap_cons_some (by rw [FileResult.kept?, if_neg huses]),
          List.append_assoc]
        rfl

/-- A round with at most one declaration keeps the uses of all results, in order; one with more keeps
nothing. -/
theorem results_classify (results : List FileResult) : (classify results).results =
    if (declarationsOf results).length ≤ 1 then results.filterMap FileResult.kept? else [] := by
  rw [classify, results_classifyFrom (Nat.zero_le 1), Nat.zero_add]
  rfl

theorem mem_classify {results : List FileResult} {result : FileResult}
    (h : result ∈ (classify results).results) :
    ∃ scanned ∈ results, scanned.uses ≠ [] ∧ result = { scanned with hits := scanned.uses } := by
  rw [results_classify] at h
  split at h
  · obtain ⟨scanned, hmem, hkept⟩ := List.mem_filterMap.mp h
    unfold FileResult.kept? at hkept
    split at hkept
    · cases hkept
    · rename_i huses
      exact ⟨scanned, hmem, fun hempty => huses (List.isEmpty_iff.mpr hempty),
        (Option.some.inj hkept).symm⟩
  · cases h

theorem mem_classify_hits {results : List FileResult} {result : FileResult}
    (h : result ∈ (classify results).results) :
    result.hits ≠ [] ∧ ∀ m ∈ result.hits, m.isDeclaration = false := by
  obtain ⟨scanned, -, huses, rfl⟩ := mem_classify h
  exact ⟨huses, fun m hm => by simpa using (List.mem_filter.mp hm).2⟩

theorem results_of_ambiguous {results : List FileResult}
    (h : (classify results).decision = .ambiguous) : (classify results).results = [] := by
  rw [decision_classify, Decision.ofCount_eq_ambiguous] at h
  rw [results_classify, if_neg (by omega)]

theorem decision_classify_perm {results results' : List FileResult} (h : results.Perm results') :
    (classify results).decision = (classify results').decision := by
  rw [decision_classify, decision_classify]
  exact congrArg Decision.ofCount (h.flatMap_right _).length_eq

theorem results_classify_perm {results results' : List FileResult} (h : results.Perm results') :
    (classify results).results.Perm (classify results').results := by
  have hcount : (declarationsOf results).length = (declarationsOf results').length :=
    (h.flatMap_right _).length_eq
  rw [results_classify, results_classify, hcount]
  split
  · exact h.filterMap _
  · exact .nil

/-- Where the first result leaves the round undecided, the others are classified next. -/
theorem exists_classifyFrom_cons {declarations : Nat} {first : FileResult}
    (hfew : declarations + first.declarationCount ≤ 1) (kept rest : List FileResult) :
    ∃ kept', classifyFrom declarations kept (first :: rest) =
      classifyFrom (declarations + first.declarationCount) kept' rest := by
  rw [classifyFrom, if_neg (by omega)]
  split
  · exact ⟨_, rfl⟩
  · exact ⟨_, rfl⟩

theorem declarations_classifyFrom {declarations : Nat} (kept : List FileResult)
    {results : List FileResult} (hfew : declarations + (declarationsOf results).length ≤ 1) :
    (classifyFrom declarations kept results).declarations =
      declarations + (declarationsOf results).length := by
  induction results generalizing declarations kept with
  | nil => rfl
  | cons first rest ih =>
    rw [length_declarationsOf_cons, ← Nat.add_assoc] at hfew ⊢
    have hfirst : declarations + first.declarationCount ≤ 1 := by omega
    obtain ⟨kept', hrest⟩ := exists_classifyFrom_cons hfirst kept rest
    rw [hrest, ih kept' hfew]

/-- Counting ends with the first result that makes a round ambiguous. -/
theorem exists_last_counted {declarations : Nat} (hfew : declarations ≤ 1) (kept : List FileResult)
    {results : List FileResult} (hmany : 2 ≤ declarations + (declarationsOf results).length) :
    ∃ before last after, results = before ++ last :: after ∧
      declarations + (declarationsOf before).length ≤ 1 ∧
      2 ≤ declarations + (declarationsOf (before ++ [last])).length ∧
      (classifyFrom declarations kept results).declarations =
        declarations + (declarationsOf (before ++ [last])).length := by
  induction results generalizing declarations kept with
  | nil => exact absurd (Nat.le_trans hmany hfew) (by decide)
  | cons first rest ih =>
    have hfirst : (declarationsOf [first]).length = first.declarationCount :=
      length_declarationsOf_cons first []
    rw [length_declarationsOf_cons, ← Nat.add_assoc] at hmany
    by_cases hstop : 2 ≤ declarations + first.declarationCount
    · refine ⟨[], first, rest, rfl, hfew, ?_, ?_⟩
      · rwa [List.nil_append, hfirst]
      · rw [classifyFrom, if_pos (by omega), List.nil_append, hfirst]
    · have hgoes : declarations + first.declarationCount ≤ 1 := by omega
      obtain ⟨kept', hrest⟩ := exists_classifyFrom_cons hgoes kept rest
      obtain ⟨before, last, after, rfl, hbefore, hlast, hcount⟩ := ih hgoes kept' hmany
      refine ⟨first :: before, last, after, rfl, ?_, ?_, ?_⟩
      · rwa [length_declarationsOf_cons, ← Nat.add_assoc]
      · rwa [List.cons_append, length_declarationsOf_cons, ← Nat.add_assoc]
      · rw [hrest, hcount, List.cons_append, length_declarationsOf_cons, ← Nat.add_assoc]

theorem filterMap_kept? (results : List FileResult) : results.filterMap FileResult.kept? =
    (results.filter fun result => result.uses ≠ []).map fun result =>
      { result with hits := result.uses } := by
  induction results with
  | nil => rfl
  | cons first rest ih =>
    by_cases huses : first.uses = []
    · rw [List.filterMap_cons_none (by simp [FileResult.kept?, huses]), ih,
        List.filter_cons_of_neg (by simp [huses])]
    · rw [List.filterMap_cons_some (by simp [FileResult.kept?, huses]; rfl), ih,
        List.filter_cons_of_pos (by simp [huses]), List.map_cons]

/-- `round` is what comes of `results` when all their declarations are counted first and then, if
there is at most one, each result is cut down to its uses. Of an ambiguous round the declarations are
counted up to the result with the second of them. -/
structure Pruned (results : List FileResult) (round : Round) : Prop where
  ambiguous : round.decision = .ambiguous ∧ round.results = [] ↔ 2 ≤ (declarationsOf results).length
  unique : round.decision = .unique ↔ (declarationsOf results).length = 1
  noDeclarations : round.decision = .noDeclarations ↔ (declarationsOf results).length = 0
  kept : (declarationsOf results).length ≤ 1 → round.results =
    (results.filter fun result => result.uses ≠ []).map fun result =>
      { result with hits := result.uses }
  declarations : (declarationsOf results).length ≤ 1 →
    round.declarations = (declarationsOf results).length
  counted : 2 ≤ (declarationsOf results).length → ∃ before last after,
    results = before ++ last :: after ∧ (declarationsOf before).length ≤ 1 ∧
      2 ≤ (declarationsOf (before ++ [last])).length ∧
      round.declarations = (declarationsOf (before ++ [last])).length

theorem pruned_classify (results : List FileResult) : Pruned results (classify results) where
  ambiguous := by
    rw [← Decision.ofCount_eq_ambiguous, ← decision_classify]
    exact and_iff_left_of_imp results_of_ambiguous
  unique := by rw [decision_classify, Decision.ofCount_eq_unique]
  noDeclarations := by rw [decision_classify, Decision.ofCount_eq_noDeclarations]
  kept hfew := by rw [results_classify, if_pos hfew, filterMap_kept?]
  declarations hfew := by rw [classify, declarations_classifyFrom [] (by omega), Nat.zero_add]
  counted hmany := by
    have hlast := exists_last_counted (Nat.zero_le 1) [] (by rwa [Nat.zero_add])
    simp only [Nat.zero_add] at hlast
    exact hlast

theorem declarationsOf_kept (results : List FileResult) :
    declarationsOf (classify results).results = [] := by
  rw [List.eq_nil_iff_forall_not_mem]
  intro m hm
  obtain ⟨result, hresult, hhit, hdeclaration⟩ := mem_declarationsOf.mp hm
  rw [(mem_classify_hits hresult).2 m hhit] at hdeclaration
  cases hdeclaration

theorem kept?_of_kept {results : List FileResult} {result : FileResult}
    (h : result ∈ (classify results).results) : result.kept? = some result := by
  obtain ⟨hne, hplain⟩ := mem_classify_hits h
  have huses : result.uses = result.hits :=
    List.filter_eq_self.mpr fun m hm => by simp [hplain m hm]
  rw [FileResult.kept?, huses, if_neg (by simpa using hne)]

/-- What is kept holds uses alone, so that nothing more is dropped from it. -/
theorem classify_kept (results : List FileResult) : classify (classify results).results =
    { decision := .noDeclarations, results := (classify results).results, declarations := 0 } := by
  have hnone : (declarationsOf (classify results).results).length = 0 := by
    rw [declarationsOf_kept, List.length_nil]
  have hpruned := pruned_classify (classify results).results
  have hdecision := hpruned.noDeclarations.mpr hnone
  have hdeclarations := (hpruned.declarations (by omega)).trans hnone
  have hresults : (classify (classify results).results).results = (classify results).results := by
    rw [results_classify, if_pos (by omega), List.filterMap_congr fun _ => kept?_of_kept]
    exact List.filterMap_some
  generalize classify (classify results).results = again at hdecision hdeclarations hresults ⊢
  obtain ⟨decision, kept, declarations⟩ := again
  obtain rfl : decision = .noDeclarations := hdecision
  obtain rfl : declarations = 0 := hdeclarations
  exact congrArg (Round.mk _ · _) hresults

/-- One pass over the results counts and prunes them as two passes would. The order of the results
decides nothing but that of the kept ones, and a second pass over these changes nothing. -/
theorem classify_counts_then_prunes (results : List FileResult) :
    Pruned results (classify results) ∧
      (∀ others, results.Perm others →
        (classify results).decision = (classify others).decision ∧
        (classify results).results.Perm (classify others).results) ∧
      classify (classify results).results =
        { decision := .noDeclarations, results := (classify results).results, declarations := 0 } :=
  ⟨pruned_classify results,
    fun _ hperm => ⟨decision_classify_perm hperm, results_classify_perm hperm⟩,
    classify_kept results⟩

end Round

namespace Sample

def call : Match where
  path := "a.py"
  line := 4
  column := 1
  columnEnd := 2
  text := " f()"
  routine := "g"

def declaringFile : FileResult where
  path := "a.py"
  hits := [{ call with line := 1, text := "def f():", routine := "", isDeclaration := true }, call]

def callingFile : FileResult where
  path := "t.py"
  hits := [{ call with path := "t.py" }]
  isTestCase := true
  info := { identifier := "P-1" }

end Sample

theorem Round.sample_classified :
    [Sample.declaringFile, Sample.callingFile].Perm [Sample.callingFile, Sample.declaringFile] ∧
      (classify [Sample.callingFile, Sample.declaringFile]).decision = .unique ∧
      (classify [Sample.declaringFile, Sample.callingFile]).results =
        [{ Sample.declaringFile with hits := [Sample.call] }, Sample.callingFile] ∧
      (classify [Sample.declaringFile, Sample.callingFile]).results.Perm
        (classify [Sample.callingFile, Sample.declaringFile]).results := by
  have hperm : [Sample.declaringFile, Sample.callingFile].Perm
      [Sample.callingFile, Sample.declaringFile] := .swap _ _ _
  obtain ⟨hpruned, hreordered, -⟩ :=
    classify_counts_then_prunes [Sample.declaringFile, Sample.callingFile]
  obtain ⟨hdecision, hresults⟩ := hreordered _ hperm
  exact ⟨hperm, hdecision ▸ hpruned.unique.mpr (by decide), hpruned.kept (by decide), hresults⟩

end TestReach
