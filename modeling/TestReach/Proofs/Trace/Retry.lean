import TestReach.Proofs.Trace.Depth
import TestReach.Proofs.Trace.Irrelevance

namespace TestReach

/-- A match lies in a routine whose name makes no term. -/
def Match.Misnamed (m : Match) : Prop :=
  m.routine ≠ "" ∧ ∃ error, Term.wholeWord? m.routine = .error error

theorem Match.Within.not_misnamed {m : Match} {next : Term} (h : m.Within next) : ¬ m.Misnamed := by
  rintro ⟨-, error, herror⟩
  rw [h.2] at herror
  cases herror

namespace Trace

/-- The round of `term` keeps a use in a routine whose name makes no term. -/
def Misnames (survey : Survey) (term : Term) : Prop :=
  ∃ result, Keeps survey term result ∧ result.info.identifier = "" ∧ ∃ m ∈ result.hits, m.Misnamed

/-- Fewer than `depth` steps lead from `term` to a round that keeps such a use, over terms that are
not claimed. -/
def LeadsToMisnamed (survey : Survey) (claimed : List String) (depth : Nat) (term : Term) : Prop :=
  ∃ steps last, steps.length < depth ∧ List.IsChain (Leads survey) (term :: steps) ∧
    (term :: steps).getLast? = some last ∧ (∀ step ∈ steps, step.text ∉ claimed) ∧
    Misnames survey last

variable {survey : Survey} {depth : Nat} {task : Task} {claimed : List String}
  {cases : TestCase.Cases} {trail : Trail} {term next : Term} {results : List FileResult}
  {records : List Log.Record} {failure : Failure} {journal' : Journal}

theorem misnames_iff (h : survey term = .ok (results, records)) :
    Misnames survey term ↔ (Round.classify results).decision ≠ .ambiguous ∧
      ∃ m ∈ usesOf (Round.classify results).results, m.Misnamed := by
  simp only [Misnames, keeps_iff h, mem_usesOf]
  constructor
  · rintro ⟨result, ⟨hround, hresult⟩, hid, m, hm, hmisnamed⟩
    exact ⟨hround, m, ⟨result, hresult, hid, hm⟩, hmisnamed⟩
  · rintro ⟨hround, m, ⟨result, hresult, hid, hm⟩, hmisnamed⟩
    exact ⟨result, ⟨hround, hresult⟩, hid, m, hm, hmisnamed⟩

theorem LeadsToMisnamed.here (h : Misnames survey term) :
    LeadsToMisnamed survey claimed (depth + 1) term :=
  ⟨[], term, Nat.succ_pos depth, .singleton term, rfl, by simp, h⟩

theorem LeadsToMisnamed.step (hleads : Leads survey term next) (hnew : next.text ∉ claimed)
    (h : LeadsToMisnamed survey claimed depth next) :
    LeadsToMisnamed survey claimed (depth + 1) term := by
  obtain ⟨steps, last, hlength, hchain, hend, hfresh, hlast⟩ := h
  refine ⟨next :: steps, last, by simpa using hlength, hchain.cons_cons hleads, ?_, ?_, hlast⟩
  · rwa [List.getLast?_cons_cons]
  · exact List.forall_mem_cons.mpr ⟨hnew, hfresh⟩

theorem LeadsToMisnamed.mono {more : List String} (hclaimed : claimed ⊆ more)
    (h : LeadsToMisnamed survey more depth term) : LeadsToMisnamed survey claimed depth term := by
  obtain ⟨steps, last, hlength, hchain, hend, hfresh, hlast⟩ := h
  exact ⟨steps, last, hlength, hchain, hend,
    fun step hstep hmem => hfresh step hstep (hclaimed hmem), hlast⟩

inductive FailsFor (survey : Survey) (reason : Prop) : Failure → Prop where
  | files {term : Term} {error : SourceFiles.ListError} (h : survey term = .error error) :
      FailsFor survey reason (.files error)
  | term {error : Term.Invalid} (h : reason) : FailsFor survey reason (.term error)

theorem FailsFor.imp {reason reason' : Prop} (h : FailsFor survey reason failure)
    (himp : reason → reason') : FailsFor survey reason' failure := by
  cases h with
  | files h => exact .files h
  | term h => exact .term (himp h)

def UsesMisname (survey : Survey) (claimed : List String) (depth : Nat) (uses : List Match) : Prop :=
  ∃ m ∈ uses, m.Misnamed ∨ ∃ next, m.Within next ∧ next.text ∉ claimed ∧
    LeadsToMisnamed survey claimed depth next

theorem UsesMisname.cons {m : Match} {uses : List Match} {more : List String}
    (hclaimed : claimed ⊆ more) (h : UsesMisname survey more depth uses) :
    UsesMisname survey claimed depth (m :: uses) := by
  obtain ⟨m', hm', hmisnames⟩ := h
  refine ⟨m', List.mem_cons_of_mem _ hm', hmisnames.imp_right ?_⟩
  rintro ⟨next, hwithin, hnew, hleads⟩
  exact ⟨next, hwithin, fun hmem => hnew (hclaimed hmem), hleads.mono hclaimed⟩

theorem failsFor_of_follow
    (htrace : ∀ next journal failure journal',
      run survey depth next journal = (.error failure, journal') →
        FailsFor survey (LeadsToMisnamed survey journal.claimed depth next) failure)
    (term : Term) (uses : List Match) (found : TestCase.Cases) (journal : Journal)
    (h : follow (run survey depth) term found uses journal = (.error failure, journal')) :
    FailsFor survey (UsesMisname survey journal.claimed depth uses) failure := by
  induction uses generalizing found journal with
  | nil => cases h
  | cons m rest ih =>
    rw [follow_cons] at h
    split at h
    · exact (ih _ _ h).imp (.cons fun _ hmem => hmem)
    rename_i hroutine
    split at h
    · rename_i error herror
      cases h
      exact .term ⟨m, List.mem_cons_self, Or.inl ⟨hroutine, error, herror⟩⟩
    rename_i next hnext
    split at h
    · exact (ih _ _ h).imp (.cons fun _ hmem => hmem)
    rename_i hnew
    have hclaim : journal.claimed ⊆ ((journal.adding next.text).extended term next).claimed :=
      List.subset_append_left _ _
    split at h
    · rename_i failed middle hfailed
      cases h
      apply (htrace _ _ _ _ hfailed).imp
      exact fun hleads => ⟨m, List.mem_cons_self,
        Or.inr ⟨next, ⟨hroutine, hnext⟩, hnew, hleads.mono hclaim⟩⟩
    -- A trace that returns adds claims only: what is new to the uses after it was new before.
    · rename_i more middle hmore
      obtain ⟨trail, -, hadds⟩ := returns_of_run _ _ _ hmore
      apply (ih _ _ h).imp
      apply UsesMisname.cons
      rw [hadds.claimed]
      exact List.subset_append_of_subset_left _ hclaim

/-- A trace fails on a name only if it is led to it over terms that were not claimed when it began. -/
theorem failsFor_of_run (depth : Nat) (term : Term) (journal : Journal)
    (h : run survey depth term journal = (.error failure, journal')) :
    FailsFor survey (LeadsToMisnamed survey journal.claimed depth term) failure := by
  induction depth generalizing term journal failure journal' with
  | zero => cases h
  | succ depth ih =>
    rw [run_succ] at h
    split at h
    · rename_i error hfailed
      cases h
      exact .files hfailed
    rename_i results records hsurvey
    dsimp only at h
    split at h
    · cases h
    rename_i hround
    split at h
    · rename_i failed last hfailed
      cases h
      apply (failsFor_of_follow (fun _ _ _ _ => ih _ _) _ _ _ _ hfailed).imp
      rintro ⟨m, hm, hmisnamed | ⟨next, hwithin, hnew, hleads⟩⟩
      · exact .here ((misnames_iff hsurvey).mpr ⟨hround, m, hm, hmisnamed⟩)
      · exact .step ((leads_iff hsurvey).mpr ⟨hround, m, hm, hwithin⟩) hnew hleads
    · cases h

/-- A trace that returns keeps no use in a routine whose name makes no term. -/
theorem Returns.not_misnamed (h : Returns survey depth task claimed cases trail) :
    (∀ m ∈ task.uses, ¬ m.Misnamed) ∧ ∀ last ∈ trail.scanned, ¬ Misnames survey last := by
  induction h with
  | spent | done => simp
  | ambiguous hsurvey hround => simp [misnames_iff hsurvey, hround]
  | round hsurvey hround _ ih =>
    obtain ⟨huses, hscanned⟩ := ih
    refine ⟨by simp, ?_⟩
    rw [Trail.scanned_append, List.singleton_append]
    refine List.forall_mem_cons.mpr ⟨?_, hscanned⟩
    rw [misnames_iff hsurvey]
    rintro ⟨-, m, hm, hmisnamed⟩
    exact huses m hm hmisnamed
  | orphan hroutine _ ih =>
    refine ⟨List.forall_mem_cons.mpr ⟨fun hmisnamed => hmisnamed.1 hroutine, ih.1⟩, ih.2⟩
  | known hwithin _ _ ih =>
    exact ⟨List.forall_mem_cons.mpr ⟨hwithin.not_misnamed, ih.1⟩, ih.2⟩
  | extended hwithin _ _ _ ihFirst ihRest =>
    refine ⟨List.forall_mem_cons.mpr ⟨hwithin.not_misnamed, ihRest.1⟩, fun last hlast => ?_⟩
    simp only [Trail.scanned_append, List.nil_append, List.mem_append] at hlast
    exact hlast.elim (ihFirst.2 last) (ihRest.2 last)

/-- Where the depth pays for all claims, a trace that returns scans for every term that it is led to
over terms that were not claimed when it began. -/
theorem Returns.scanned_of_unclaimed (h : Returns survey depth (.trace term) claimed cases trail)
    (hscanned : trail.scanned.map Term.text = term.text :: trail.claimed)
    {first last : Term} (hfirst : first ∈ trail.scanned) {steps : List Term}
    (hchain : List.IsChain (Leads survey) (first :: steps))
    (hfresh : ∀ step ∈ steps, step.text ∉ claimed)
    (hlast : (first :: steps).getLast? = some last) : last ∈ trail.scanned := by
  refine h.scanned_of_chain hfirst hchain hlast hfresh ?_
  rintro step - ⟨m, hwithin⟩ hclaimed
  obtain ⟨next, hnext, htext, m', hwithin'⟩ := h.exists_scanned hscanned hclaimed
  rwa [hwithin'.ext hwithin htext] at hnext

theorem Returns.scanned_eq_of_unclaimed (h : Returns survey depth (.trace term) claimed cases trail)
    (hfinite : (reachedTexts survey [term]).Finite)
    (hdepth : (reachedTexts survey [term] \ {text | text ∈ claimed}).encard < depth) :
    trail.scanned.map Term.text = term.text :: trail.claimed := by
  have hset : reachedTexts survey [term] \ {text | text ∈ claimed} =
      ↑(hfinite.toFinset \ claimed.toFinset) := by
    ext text
    simp
  rw [hset, Set.encard_coe_eq_coe_finsetCard] at hdepth
  have hclosed : ∀ t ∈ reachedTerms survey [term], ∀ next, Leads survey t next →
      next ∈ reachedTerms survey [term] ∧ next.text ∈ hfinite.toFinset :=
    fun t ht next hleads => by simpa using reached_of_leads ht hleads
  refine h.scanned_eq_of_budget hclosed ?_ (by simp) (by exact_mod_cast hdepth)
  exact fun first hfirst => ⟨term, List.mem_singleton_self _, hfirst ▸ .refl⟩

/-- What a trace comes to that begins with the texts in `claimed` claimed. -/
structure Retried (survey : Survey) (depth : Nat) (term : Term) (claimed : List String)
    (retry : Outcome) : Prop where
  /-- It scans again for its own term and for no claimed one. -/
  scanned : ∃ later, retry.2.scanned = term :: later ∧ ∀ next ∈ later, next.text ∉ claimed
  /-- It returns or fails on a name. -/
  ends : (∃ cases, retry.1 = .ok cases) ∨ ∃ error, retry.1 = .error (.term error)
  /-- If it returns, it has found what the rounds of the scanned terms keep. -/
  found : ∀ cases, retry.1 = .ok cases → ∀ k, k ∈ cases.keys ↔
    k ≠ "" ∧ ∃ last ∈ retry.2.scanned, ∃ result, Keeps survey last result ∧ result.info.identifier = k
  /-- It fails only if it is led to a misnamed use over terms that are not claimed. -/
  fails : ∀ error, retry.1 = .error error → LeadsToMisnamed survey claimed depth term
  /-- It does fail if the round of its own term keeps one. -/
  again : Misnames survey term → ∃ error, retry.1 = .error error
  /-- It fails wherever it is led to one if the depth is enough. -/
  deep : (reachedTexts survey [term] \ {text | text ∈ claimed}).encard < depth →
    LeadsToMisnamed survey claimed depth term → ∃ error, retry.1 = .error error

theorem exists_files_of_keeps {scanner : Scanner} {disk : Disk} {root : Path} {result : FileResult}
    (h : Keeps (scanner.survey disk root) term result) :
    ∃ files, scanner.files disk root = .ok files := by
  obtain ⟨results, records, hsurvey, -⟩ := h
  cases hfiles : scanner.files disk root with
  | ok files => exact ⟨files, rfl⟩
  | error error =>
    rw [Scanner.survey_of_error hfiles] at hsurvey
    cases hsurvey

/-- A trace scans for its own term first, and later for no term that was claimed when it began. -/
theorem exists_later_of_run (hdepth : 0 < depth) (claimed : List String) :
    ∃ later, (run survey depth term { claimed }).2.scanned = term :: later ∧
      ∀ next ∈ later, next.text ∉ claimed := by
  obtain ⟨depth, rfl⟩ := Nat.exists_eq_succ_of_ne_zero hdepth.ne'
  obtain ⟨trail, hadds, hexplores⟩ := exists_trail_of_run survey (depth + 1) term { claimed }
  have hmem := mem_scanned_run survey depth term { claimed }
  rw [hadds.scanned, List.nil_append] at hmem ⊢
  rcases hexplores.scanned_trace with hnone | ⟨later, hlater, -⟩
  · rw [hnone] at hmem
    cases hmem
  · refine ⟨later, hlater, fun next hnext => hexplores.fresh _ ?_⟩
    have hsublist : (later.map Term.text).Sublist trail.claimed := by
      simpa [hlater] using hexplores.scanned
    exact hsublist.subset (List.mem_map_of_mem hnext)

/-- Where every round can be made, a trace fails on a name only. -/
theorem leadsToMisnamed_of_run (hsurvey : ∀ term, ∃ found, survey term = .ok found)
    {claimed : List String} {failure : Failure}
    (h : (run survey depth term { claimed }).1 = .error failure) :
    (∃ error, failure = .term error) ∧ LeadsToMisnamed survey claimed depth term := by
  cases failsFor_of_run depth term { claimed } (Prod.ext h rfl) with
  | files herror =>
    obtain ⟨found, hfound⟩ := hsurvey _
    rw [hfound] at herror
    cases herror
  | term hleads => exact ⟨⟨_, rfl⟩, hleads⟩

/-- Where every round can be made, a trace with depth left is such a retry, whatever is claimed. -/
theorem retried_of_survey (hsurvey : ∀ term, ∃ found, survey term = .ok found)
    (hfinite : (reachedTexts survey [term]).Finite) (hdepth : 0 < depth) (claimed : List String) :
    Retried survey depth term claimed (run survey depth term { claimed }) := by
  have hreturns {cases : TestCase.Cases} (h : (run survey depth term { claimed }).1 = .ok cases) :
      ∃ trail, Returns survey depth (.trace term) claimed cases trail ∧
        (run survey depth term { claimed }).2.scanned = trail.scanned := by
    obtain ⟨trail, hreturns, hadds⟩ := returns_of_run depth term { claimed } (Prod.ext h rfl)
    exact ⟨trail, hreturns, hadds.scanned⟩
  have hends : (∃ cases, (run survey depth term { claimed }).1 = .ok cases) ∨
      ∃ failure, (run survey depth term { claimed }).1 = .error failure := by
    cases (run survey depth term { claimed }).1 with
    | ok cases => exact Or.inl ⟨cases, rfl⟩
    | error failure => exact Or.inr ⟨failure, rfl⟩
  constructor
  · exact exists_later_of_run hdepth claimed
  · refine hends.imp_right ?_
    rintro ⟨failure, hfailure⟩
    obtain ⟨⟨error, rfl⟩, -⟩ := leadsToMisnamed_of_run hsurvey hfailure
    exact ⟨error, hfailure⟩
  · intro cases hcases k
    obtain ⟨trail, hreturns, hscanned⟩ := hreturns hcases
    rw [hreturns.mem_keys, hscanned]
    simp only [hreturns.mem_committed]
    constructor
    · rintro (hnone | ⟨hk, result, ⟨last, hlast, hkeeps⟩, hid⟩)
      · cases hnone
      · exact ⟨hk, last, hlast, result, hkeeps, hid⟩
    · rintro ⟨hk, last, hlast, result, hkeeps, hid⟩
      exact Or.inr ⟨hk, result, ⟨last, hlast, hkeeps⟩, hid⟩
  · exact fun failure hfailure => (leadsToMisnamed_of_run hsurvey hfailure).2
  · intro hmisnames
    refine hends.resolve_left ?_
    rintro ⟨cases, hcases⟩
    obtain ⟨trail, hreturns, -⟩ := hreturns hcases
    exact hreturns.not_misnamed.2 term (hreturns.mem_scanned hdepth) hmisnames
  -- Were it to return, it would have scanned for all terms of the chain, the misnamed use among them.
  · rintro henough ⟨steps, last, -, hchain, hend, hfresh, hmisnames⟩
    refine hends.resolve_left ?_
    rintro ⟨cases, hcases⟩
    obtain ⟨trail, hreturns, -⟩ := hreturns hcases
    have hall := hreturns.scanned_eq_of_unclaimed hfinite henough
    exact hreturns.not_misnamed.2 last (hreturns.scanned_of_unclaimed hall
      (hreturns.mem_scanned hdepth) hchain hfresh hend) hmisnames

/-- A trace that has failed on a name does so again, with the claims of the failed one, only if it is
led to such a name over terms that the failed one had not claimed: with enough depth exactly then.
Otherwise it returns what the rounds of its own term and of such terms keep. -/
theorem retry_fails_iff_unclaimed (scanner : Scanner) (disk : Disk) (root : Path) (depth : Nat)
    (term : Term) (journal : Journal) {error : Term.Invalid}
    (h : inTree scanner disk root depth term journal = (.error (.term error), journal')) :
    Retried (scanner.survey disk root) depth term journal'.claimed
      (inTree scanner disk root depth term { claimed := journal'.claimed }) := by
  obtain ⟨files, hfiles⟩ : ∃ files, scanner.files disk root = .ok files := by
    cases failsFor_of_run depth term journal h with
    | term hleads =>
      obtain ⟨steps, last, -, -, -, -, result, hkeeps, -⟩ := hleads
      exact exists_files_of_keeps hkeeps
  have hdepth : 0 < depth := by
    refine Nat.pos_of_ne_zero ?_
    rintro rfl
    cases h
  exact retried_of_survey
    (fun term => ⟨_, congrFun (Scanner.survey_of_files hfiles) term⟩)
    (reachedTexts_finite scanner disk root [term]) hdepth journal'.claimed

end Trace

namespace Sample

/-- Routines whose names may be anything before a colon. -/
def looseRules : DeclarationRules :=
  (DeclarationRules.compile "def (?P<name>.+):" []).toOption.get (by decide +kernel)

def looseScanner : Scanner :=
  { scanner with declarations := looseRules }

/-- `x` is used in `good`, which a test case and a routine with a bad name use. -/
def looseTree : Disk where
  entries :=
    [(["r"], .directory),
      (["r", "a.py"], .file "def good:\n x\n".toUTF8.toList),
      (["r", "b.py"], .file "def *:\n good\n".toUTF8.toList),
      (["r", "test_cases"], .directory),
      (["r", "test_cases", "g"], .directory),
      (["r", "test_cases", "g", "test_t.py"], .file "Polarion ID: P-1\ngood\n".toUTF8.toList)]

def looseFiles : List Path :=
  [⟨"", ["r", "a.py"]⟩, ⟨"", ["r", "b.py"]⟩, ⟨"", ["r", "test_cases", "g", "test_t.py"]⟩]

theorem loose_survey : looseScanner.survey looseTree root =
    fun term => .ok (looseScanner.visitAll looseTree looseFiles term) := by
  have hselect : SourceFiles.select looseTree false
      [.below, .like (Glob.pieces ['*', '.', 'p', 'y'])] root = looseFiles := by decide +kernel
  have hfiles := files_of_select (by decide +kernel) hselect (by decide +kernel)
  refine Scanner.survey_of_files (Eq.trans ?_ (hfiles.trans ?_))
  · rfl
  · exact congrArg Except.ok (by decide +kernel)

end Sample

namespace Trace

def looseOutcome : Outcome :=
  inTree Sample.looseScanner Sample.looseTree Sample.root 3 (.literal "x") {}

def failsOnName : Except Failure TestCase.Cases → Bool
  | .error (.term _) => true
  | _ => false

theorem exists_of_failsOnName {found : Except Failure TestCase.Cases}
    (h : failsOnName found = true) : ∃ error, found = .error (.term error) := by
  unfold failsOnName at h
  split at h
  · exact ⟨_, rfl⟩
  · cases h

theorem looseOutcome_fails : ∃ error, looseOutcome.1 = .error (.term error) := by
  apply exists_of_failsOnName
  rw [looseOutcome, inTree, Sample.loose_survey]
  decide +kernel

theorem looseOutcome_journal : looseOutcome.2.claimed = ["\\bgood\\b"] ∧
    ∃ result ∈ looseOutcome.2.committed, result.info.identifier = "P-1" := by
  rw [looseOutcome, inTree, Sample.loose_survey]
  decide +kernel

/-- A trace fails on a name two rounds away from its term, after it has met a test case. With its
claims it returns, and that test case is lost. -/
theorem retry_loses_case :
    (∃ error, looseOutcome.1 = .error (.term error)) ∧
      (∃ result ∈ looseOutcome.2.committed, result.info.identifier = "P-1") ∧
      (inTree Sample.looseScanner Sample.looseTree Sample.root 3 (.literal "x")
        { claimed := looseOutcome.2.claimed }).1 = .ok [] := by
  refine ⟨looseOutcome_fails, looseOutcome_journal.2, ?_⟩
  rw [looseOutcome_journal.1, inTree, Sample.loose_survey]
  exact ok_of_toOption (by decide +kernel)

theorem loose_retried : ∃ error, looseOutcome = (.error (.term error), looseOutcome.2) ∧
    Retried (Sample.looseScanner.survey Sample.looseTree Sample.root) 3 (.literal "x")
      ["\\bgood\\b"] (inTree Sample.looseScanner Sample.looseTree Sample.root 3 (.literal "x")
        { claimed := ["\\bgood\\b"] }) := by
  obtain ⟨error, herror⟩ := looseOutcome_fails
  have hretried := retry_fails_iff_unclaimed Sample.looseScanner Sample.looseTree Sample.root 3
    (.literal "x") {} (Prod.ext herror rfl : looseOutcome = (.error (.term error), looseOutcome.2))
  rw [looseOutcome_journal.1] at hretried
  exact ⟨error, Prod.ext herror rfl, hretried⟩

end Trace
end TestReach
