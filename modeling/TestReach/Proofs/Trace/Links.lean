import Mathlib.Logic.Relation
import TestReach.Proofs.Round
import TestReach.Proofs.Term
import TestReach.Trace

namespace TestReach

/-- `next` is the whole-word term of the routine around a match. -/
def Match.Within (m : Match) (next : Term) : Prop :=
  m.routine ≠ "" ∧ Term.wholeWord? m.routine = .ok next

theorem Match.Within.ext {m m' : Match} {next next' : Term} (h : m.Within next)
    (h' : m'.Within next') (htext : next.text = next'.text) : next = next' :=
  Term.wholeWord_ext h.2 h'.2 htext

/-- `next` comes from a match in a result that is no test case. -/
def FileResult.Names (result : FileResult) (next : Term) : Prop :=
  result.info.identifier = "" ∧ ∃ m ∈ result.hits, m.Within next

namespace Trace

/-- The round of `term` can be made, is not ambiguous, and keeps `result`. -/
def Keeps (survey : Survey) (term : Term) (result : FileResult) : Prop :=
  ∃ results records, survey term = .ok (results, records) ∧
    (Round.classify results).decision ≠ .ambiguous ∧ result ∈ (Round.classify results).results

def Leads (survey : Survey) (term next : Term) : Prop :=
  ∃ result, Keeps survey term result ∧ result.Names next

variable {survey : Survey} {term next : Term} {results : List FileResult}
  {records : List Log.Record}

theorem keeps_iff (h : survey term = .ok (results, records)) {result : FileResult} :
    Keeps survey term result ↔ (Round.classify results).decision ≠ .ambiguous ∧
      result ∈ (Round.classify results).results := by
  constructor
  · rintro ⟨results', records', h', hkeeps⟩
    rw [h] at h'
    cases h'
    exact hkeeps
  · exact fun hkeeps => ⟨results, records, h, hkeeps⟩

theorem exists_scanned_of_keeps {result : FileResult} {m : Match} (h : Keeps survey term result)
    (hm : m ∈ result.hits) :
    ∃ results records, survey term = .ok (results, records) ∧ ∃ scanned ∈ results, m ∈ scanned.hits := by
  obtain ⟨results, records, hsurvey, -, hresult⟩ := h
  obtain ⟨scanned, hmem, -, rfl⟩ := Round.mem_classify hresult
  exact ⟨results, records, hsurvey, scanned, hmem, (List.mem_filter.mp hm).1⟩

theorem mem_usesOf {m : Match} :
    m ∈ usesOf results ↔ ∃ result ∈ results, result.info.identifier = "" ∧ m ∈ result.hits := by
  simp [usesOf, othersOf, and_assoc]

theorem exists_use_within :
    (∃ m ∈ usesOf results, m.Within next) ↔ ∃ result ∈ results, result.Names next := by
  constructor
  · rintro ⟨m, hm, hwithin⟩
    obtain ⟨result, hresult, hid, hhit⟩ := mem_usesOf.mp hm
    exact ⟨result, hresult, hid, m, hhit, hwithin⟩
  · rintro ⟨result, hresult, hid, m, hhit, hwithin⟩
    exact ⟨m, mem_usesOf.mpr ⟨result, hresult, hid, hhit⟩, hwithin⟩

theorem leads_iff (h : survey term = .ok (results, records)) :
    Leads survey term next ↔ (Round.classify results).decision ≠ .ambiguous ∧
      ∃ m ∈ usesOf (Round.classify results).results, m.Within next := by
  simp only [Leads, keeps_iff h, exists_use_within, and_assoc, exists_and_left]

end Trace
end TestReach
