import TestReach.Proofs.Estimate
import TestReach.Proofs.Report.Scripts

namespace TestReach.Report

open Estimate

variable {options : Options} {approval : Option Approval} {cases : TestCase.Cases}
  {trouble : Estimate.Fault}

theorem protocol_ne_estimate {case : TestCase} :
    protocol options case ≠ .error (.estimate trouble) := by
  intro h
  have hscript := outside_of_protocol h (by simp)
  unfold scriptPath at hscript
  split at hscript <;> cases hscript

theorem exists_of_byDuration (h : byDuration cases = .error (.estimate trouble)) :
    ∃ entry ∈ cases, seconds entry.2.info.estimate = .error trouble := by
  rcases bind_eq_error.mp h with h | ⟨timed, -, h⟩
  · obtain ⟨case, hcase, herror⟩ := exists_error_of_mapM h
    obtain ⟨entry, hentry, rfl⟩ := List.mem_map.mp hcase
    refine ⟨entry, hentry, ?_⟩
    cases hseconds : seconds entry.2.info.estimate with
    | ok value =>
      rw [hseconds] at herror
      cases herror
    | error fault =>
      rw [hseconds] at herror
      cases herror
      rfl
  · exact absurd h pure_ne_error

theorem exists_of_protocols_estimate (hcases : ByIdentifier cases)
    (h : protocols options approval cases = .error (.estimate trouble)) :
    ∃ entry ∈ cases, seconds entry.2.info.estimate = .error trouble := by
  obtain ⟨⟨setup, group⟩, hgroup, h⟩ :=
    exists_error_of_mapM ((bind_eq_error.mp h).resolve_right fun ⟨_, _, h⟩ => pure_ne_error h)
  obtain ⟨part, hpart, h⟩ :=
    exists_error_of_mapM ((bind_eq_error.mp h).resolve_right fun ⟨_, _, h⟩ => pure_ne_error h)
  rcases bind_eq_error.mp h with h | ⟨ordered, -, h⟩
  · obtain ⟨entry, hentry, herror⟩ := exists_of_byDuration h
    have hin := ((hcases.split approval hgroup).sublist hpart).subset hentry
    obtain ⟨rfl, -⟩ := (mem_groups hcases.nodup).mp hgroup
    exact ⟨entry, List.mem_of_mem_filter hin, herror⟩
  · obtain ⟨case, -, herror⟩ :=
      exists_error_of_mapM ((bind_eq_error.mp h).resolve_right fun ⟨_, _, h⟩ => pure_ne_error h)
    exact absurd herror protocol_ne_estimate

/-- An estimate counts its fields as numbers in base sixty, and counts as zero where the first field
that is no number holds anything but digits. It is refused where that field consists of digits: of one
without a place value, or of too many. No report is written on a test case with such an estimate, and
no report fails over any other. -/
theorem fails_over_faulty_estimates (options : Options) (approval : Option Approval)
    (hcases : ByIdentifier cases) :
    (∀ estimate, Counted estimate) ∧
      ((∃ entry ∈ cases, Faulty entry.2.info.estimate) →
        ∀ text, protocols options approval cases ≠ .ok text) ∧
      ∀ trouble, protocols options approval cases = .error (.estimate trouble) →
        ∃ entry ∈ cases, Faulty entry.2.info.estimate ∧
          seconds entry.2.info.estimate = .error trouble := by
  refine ⟨counted, ?_, fun trouble herror => ?_⟩
  · rintro ⟨entry, hentry, hfaulty⟩ text hok
    obtain ⟨fault, herror⟩ := exists_error_iff_faulty.mpr hfaulty
    obtain ⟨value, hvalue⟩ := exists_seconds_of_protocols hcases hok entry hentry
    rw [hvalue] at herror
    cases herror
  · obtain ⟨entry, hentry, herror⟩ := exists_of_protocols_estimate hcases herror
    exact ⟨entry, hentry, exists_error_iff_faulty.mp ⟨trouble, herror⟩, herror⟩

namespace Sample

def superscripted : TestCase.Cases :=
  [("P-1", ⟨"r/test_cases/g/test_t.py", { identifier := "P-1", estimate := "1:²" }⟩)]

end Sample

theorem superscript_leaves_no_report :
    ByIdentifier Sample.superscripted ∧ ∀ text, protocols {} none Sample.superscripted ≠ .ok text := by
  have hcases : ByIdentifier Sample.superscripted :=
    ⟨by decide, by simp [Sample.superscripted]⟩
  obtain ⟨-, hfails, -⟩ := fails_over_faulty_estimates {} none hcases
  refine ⟨hcases, hfails ⟨_, List.mem_singleton_self _, ['1'] :: [], ['²'], [], by decide, ?_, ?_, ?_⟩⟩
  · intro number hnumber
    obtain rfl := List.mem_singleton.mp hnumber
    exact ⟨by decide, List.forall_mem_singleton.mpr (by decide), by decide⟩
  · exact isDigits_iff.mpr (by decide)
  · exact fun h => absurd (h.decimals '²' (List.mem_singleton_self _)) (by decide)

/-- A superscript passes for a digit and has no value. -/
theorem superscript_has_no_value : seconds "²" = .error (.notDecimal "²") := by
  decide +kernel

end TestReach.Report
