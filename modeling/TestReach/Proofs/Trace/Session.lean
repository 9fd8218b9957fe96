import Mathlib.Data.Finset.Card
import Mathlib.Data.Finset.Dedup
import TestReach.Proofs.Scan
import TestReach.Proofs.Trace.Trail

namespace TestReach.Trace

namespace Session

def scans (s : Session) : List Term :=
  s.outcomes.flatMap (·.2.scanned)

/-- The terms scanned for, without the first of each trace, which is its root. -/
def laterScans (s : Session) : List Term :=
  s.outcomes.flatMap (·.2.scanned.tail)

def committed (s : Session) : List FileResult :=
  s.outcomes.flatMap (·.2.committed)

def AllReturn (s : Session) : Prop :=
  ∀ outcome ∈ s.outcomes, ∃ cases, outcome.1 = .ok cases

theorem length_scans_le (s : Session) :
    s.scans.length ≤ s.outcomes.length + s.laterScans.length := by
  unfold scans laterScans
  induction s.outcomes with
  | nil => simp
  | cons outcome rest ih =>
    simp only [List.flatMap_cons, List.length_append, List.length_cons, List.length_tail] at ih ⊢
    omega

end Session

variable {survey : Survey}

theorem forall_session_outcomes {P : Outcome → Prop} {traces : List (Term × Nat)}
    (h : ∀ trace ∈ traces, ∀ journal, P (run survey trace.2 trace.1 journal)) (start : List String) :
    ∀ outcome ∈ (session survey traces start).outcomes, P outcome := by
  induction traces generalizing start with
  | nil => simp [session]
  | cons head rest ih =>
    intro outcome hmem
    rcases List.mem_cons.mp hmem with rfl | hmem
    · exact h head List.mem_cons_self _
    · exact ih (fun trace htrace => h trace (List.mem_cons_of_mem _ htrace)) _ outcome hmem

theorem session_induction {motive : List (Term × Nat) → List String → Session → Prop}
    (nil : ∀ claimed, motive [] claimed ⟨[], claimed⟩)
    (cons : ∀ {term depth rest claimed cases trail} {outcome : Outcome} {later : Session},
      Returns survey depth (.trace term) claimed cases trail → outcome.1 = .ok cases →
      outcome.2.scanned = trail.scanned → outcome.2.committed = trail.committed →
      motive rest (claimed ++ trail.claimed) later →
      motive ((term, depth) :: rest) claimed ⟨outcome :: later.outcomes, later.claimed⟩)
    (traces : List (Term × Nat)) (claimed : List String)
    (h : (session survey traces claimed).AllReturn) :
    motive traces claimed (session survey traces claimed) := by
  induction traces generalizing claimed with
  | nil => exact nil claimed
  | cons head rest ih =>
    obtain ⟨term, depth⟩ := head
    obtain ⟨cases, hcases⟩ := h _ List.mem_cons_self
    obtain ⟨trail, hreturns, hadds⟩ := returns_of_run depth term { claimed } (Prod.ext hcases rfl)
    have hrest := ih _ fun outcome hmem => h outcome (List.mem_cons_of_mem _ hmem)
    unfold session
    dsimp only
    rw [hadds.claimed] at hrest ⊢
    exact cons hreturns hcases (by simpa using hadds.scanned) (by simpa using hadds.committed) hrest

theorem Returns.mem_claimed_iff {depth : Nat} {term : Term} {claimed : List String}
    {cases : TestCase.Cases} {trail : Trail}
    (h : Returns survey depth (.trace term) claimed cases trail) {text : String} :
    text ∈ claimed ++ trail.claimed ↔ text ∈ claimed ∨
      ∃ result ∈ trail.committed, ∃ next, result.Names next ∧ next.text = text := by
  constructor
  · intro htext
    refine (List.mem_append.mp htext).imp_right fun htext => ?_
    obtain ⟨next, hnext, hnames⟩ := h.named_of_claimed htext
    obtain ⟨result, hresult, hnames⟩ := hnames.resolve_left (by simp)
    exact ⟨result, hresult, next, hnames, hnext⟩
  · rintro (htext | ⟨result, hresult, next, hnames, rfl⟩)
    · exact List.mem_append_left _ htext
    · exact h.claimed_of_named (Or.inr ⟨result, hresult, hnames⟩)

theorem mem_session_claimed {traces : List (Term × Nat)} {start : List String}
    (h : (session survey traces start).AllReturn) {text : String} :
    text ∈ (session survey traces start).claimed ↔ text ∈ start ∨
      ∃ result ∈ (session survey traces start).committed,
        ∃ next, result.Names next ∧ next.text = text := by
  refine session_induction (motive := fun _ start s => text ∈ s.claimed ↔ text ∈ start ∨
    ∃ result ∈ s.committed, ∃ next, result.Names next ∧ next.text = text) ?_ ?_ traces start h
  · simp [Session.committed]
  · intro term depth rest claimed cases trail outcome later hreturns _ _ hcommitted ih
    rw [ih, hreturns.mem_claimed_iff, ← hcommitted]
    simp [Session.committed, or_and_right, exists_or, or_assoc]

theorem session_new_claims {traces : List (Term × Nat)} {start : List String}
    (h : (session survey traces start).AllReturn) :
    ∃ new, (session survey traces start).claimed = start ++ new ∧ new.Nodup ∧
      (∀ text ∈ new, text ∉ start) ∧
      ((session survey traces start).laterScans.map Term.text).Sublist new := by
  refine session_induction (motive := fun _ start s => ∃ new, s.claimed = start ++ new ∧ new.Nodup ∧
    (∀ text ∈ new, text ∉ start) ∧ (s.laterScans.map Term.text).Sublist new) ?_ ?_ traces start h
  · exact fun start => ⟨[], by simp, by simp, by simp, by simp [Session.laterScans]⟩
  · rintro term depth rest claimed cases trail outcome later hreturns _ hscanned _
      ⟨new, hnew, hnodup, hfresh, hscans⟩
    obtain ⟨hnodupFirst, hfreshFirst⟩ := hreturns.claimed_fresh
    simp only [List.mem_append, not_or] at hfresh
    refine ⟨trail.claimed ++ new, by rw [hnew, List.append_assoc], ?_, ?_, ?_⟩
    · refine List.nodup_append.mpr ⟨hnodupFirst, hnodup, ?_⟩
      rintro text hfirst _ hmem rfl
      exact (hfresh _ hmem).2 hfirst
    · intro text htext
      rcases List.mem_append.mp htext with htext | htext
      · exact hfreshFirst _ htext
      · exact (hfresh _ htext).1
    · have hfirst : (trail.scanned.tail.map Term.text).Sublist trail.claimed := by
        simpa [List.map_tail] using hreturns.scanned_sublist.tail
      have hsplit : Session.laterScans ⟨outcome :: later.outcomes, later.claimed⟩ =
          trail.scanned.tail ++ later.laterScans := by
        simp [Session.laterScans, hscanned]
      rw [hsplit, List.map_append]
      exact hfirst.append hscans

theorem mem_session_committed {traces : List (Term × Nat)} {start : List String}
    (h : (session survey traces start).AllReturn) {result : FileResult} :
    result ∈ (session survey traces start).committed ↔
      ∃ term ∈ (session survey traces start).scans, Keeps survey term result := by
  refine session_induction (motive := fun _ _ s => result ∈ s.committed ↔
    ∃ term ∈ s.scans, Keeps survey term result) ?_ ?_ traces start h
  · simp [Session.committed, Session.scans]
  · intro term depth rest claimed cases trail outcome later hreturns _ hscanned hcommitted ih
    simp only [Session.committed, Session.scans] at ih ⊢
    simp only [List.flatMap_cons, List.mem_append, hscanned, hcommitted, ih, hreturns.mem_committed,
      or_and_right, exists_or]

theorem mem_session_keys {traces : List (Term × Nat)} {start : List String}
    (h : (session survey traces start).AllReturn) {k : String} :
    (∃ outcome ∈ (session survey traces start).outcomes,
      ∃ cases, outcome.1 = .ok cases ∧ k ∈ cases.keys) ↔
    k ≠ "" ∧ ∃ result ∈ (session survey traces start).committed, result.info.identifier = k := by
  refine session_induction (motive := fun _ _ s =>
    (∃ outcome ∈ s.outcomes, ∃ cases, outcome.1 = .ok cases ∧ k ∈ cases.keys) ↔
      k ≠ "" ∧ ∃ result ∈ s.committed, result.info.identifier = k) ?_ ?_ traces start h
  · simp [Session.committed]
  · intro term depth rest claimed cases trail outcome later hreturns houtcome _ hcommitted ih
    have hkeys := hreturns.mem_keys (k := k)
    simp only [Session.committed] at ih ⊢
    simp only [List.mem_cons, or_and_right, exists_or, exists_eq_left, ih, houtcome,
      Except.ok.injEq, exists_eq_left', hkeys, List.flatMap_cons, List.mem_append, hcommitted,
      and_or_left]
    simp [Catalog.keys]

theorem length_session_outcomes (traces : List (Term × Nat)) (start : List String) :
    (session survey traces start).outcomes.length = traces.length := by
  induction traces generalizing start with
  | nil => rfl
  | cons head rest ih => exact congrArg (· + 1) (ih _)

/-- The account of a session: what is claimed in the end, and that no scan but that for a root is
made twice or for a text claimed before. So the number of scans is bounded without the depths. -/
theorem session_accounts (scanner : Scanner) (disk : Disk) (root : Path)
    (traces : List (Term × Nat)) (start : List String) {s : Session}
    (hs : session (scanner.survey disk root) traces start = s) (h : s.AllReturn) :
    (∀ text, text ∈ s.claimed ↔ text ∈ start ∨
      ∃ result ∈ s.committed, ∃ next, result.Names next ∧ next.text = text) ∧
    (s.laterScans.map Term.text).Nodup ∧
    (∀ term ∈ s.laterScans, term.text ∉ start ∧ term.text ∈ s.claimed) ∧
    s.scans.length ≤ traces.length + (s.claimed.toFinset \ start.toFinset).card := by
  subst hs
  obtain ⟨new, hnew, hnodup, hfresh, hscans⟩ := session_new_claims h
  refine ⟨fun text => mem_session_claimed h, hscans.nodup hnodup, ?_, ?_⟩
  · intro term hterm
    have hmem := hscans.subset (List.mem_map_of_mem hterm)
    exact ⟨hfresh _ hmem, by rw [hnew]; exact List.mem_append_right _ hmem⟩
  · have hdiff : ((session (scanner.survey disk root) traces start).claimed.toFinset \
        start.toFinset) = new.toFinset := by
      ext text
      simp only [hnew, Finset.mem_sdiff, List.mem_toFinset, List.mem_append]
      exact ⟨fun hmem => hmem.1.resolve_left hmem.2, fun hmem => ⟨Or.inr hmem, hfresh _ hmem⟩⟩
    have hlater := hscans.length_le
    have hall := Session.length_scans_le (session (scanner.survey disk root) traces start)
    rw [hdiff, List.toFinset_card_of_nodup hnodup]
    rw [List.length_map] at hlater
    rw [length_session_outcomes] at hall
    omega

/-- Two traces of which the second is cut short by the claims of the first. -/
theorem sample_session_accounts :
    ∃ s, session (Sample.scanner.survey Sample.tree Sample.root)
        [(.literal "x", 3), (.literal "b()", 2)] ["\\bz\\b"] = s ∧ s.AllReturn ∧
      (s.laterScans.map Term.text).Nodup ∧
      s.scans.length ≤ 2 + (s.claimed.toFinset \ ["\\bz\\b"].toFinset).card := by
  have hreturns : (session (Sample.scanner.survey Sample.tree Sample.root)
      [(.literal "x", 3), (.literal "b()", 2)] ["\\bz\\b"]).AllReturn := by
    have hall : ∀ outcome ∈ (session (Sample.scanner.survey Sample.tree Sample.root)
        [(.literal "x", 3), (.literal "b()", 2)] ["\\bz\\b"]).outcomes,
        outcome.1.toOption.isSome = true := by
      rw [Sample.survey_eq]
      decide +kernel
    intro outcome houtcome
    obtain ⟨cases, hcases⟩ := Option.isSome_iff_exists.mp (hall outcome houtcome)
    exact ⟨cases, ok_of_toOption hcases⟩
  obtain ⟨-, hnodup, -, hlength⟩ := session_accounts Sample.scanner Sample.tree Sample.root
    [(.literal "x", 3), (.literal "b()", 2)] ["\\bz\\b"] rfl hreturns
  exact ⟨_, rfl, hreturns, hnodup, hlength⟩

end TestReach.Trace
