import TestReach.Proofs.Pattern.Search
import TestReach.Proofs.Text
import TestReach.Term

namespace TestReach.Term

theorem text_of_ofPattern {source : String} {term : Term} (h : ofPattern? source = .ok term) :
    term.text = source := by
  unfold ofPattern? at h
  split at h
  · cases h
  · split at h
    · rename_i compiled hcompile
      cases h
      unfold Pattern.compile at hcompile
      cases hp : Pattern.parse source.toList with
      | error e => simp [hp, Except.map] at hcompile
      | ok parsed =>
        simp only [hp, Except.map, Except.ok.injEq] at hcompile
        rw [← hcompile]
        rfl
    · cases h
    · cases h

theorem text_of_wholeWord {name : String} {term : Term} (h : wholeWord? name = .ok term) :
    term.text = "\\b" ++ name ++ "\\b" :=
  text_of_ofPattern h

/-- Claiming by text is claiming by term: two whole-word terms with one text are the same. -/
theorem wholeWord_ext {name name' : String} {term term' : Term} (h : wholeWord? name = .ok term)
    (h' : wholeWord? name' = .ok term') (htext : term.text = term'.text) : term = term' := by
  rw [text_of_wholeWord h, text_of_wholeWord h'] at htext
  unfold wholeWord? at h h'
  rw [htext, h'] at h
  exact (Except.ok.inj h).symm

theorem span_bounds {term : Term} {source : String} {span : Span} (h : span ∈ term.findAll source) :
    span.start ≤ span.stop ∧ span.stop ≤ source.toList.length := by
  cases term with
  | literal needle => simpa using Text.mem_occurrencesFrom h
  | pattern compiled => simpa using Pattern.Node.span_bounds h

end TestReach.Term
