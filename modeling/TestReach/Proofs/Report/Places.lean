import TestReach.Proofs.Escape
import TestReach.Proofs.Outcome
import TestReach.Proofs.Report.Layout

namespace TestReach

namespace Report

open Text

variable {options : Options} {approval : Option Approval} {cases : TestCase.Cases} {c d : Char}
  {text first second : List Char}

/-- The end of a place whose last letter is `c`. Data cannot make one: escaped, they hold no angle
bracket, and in a comment a blank or a dash stands before two dashes. -/
def placeEnd (c : Char) : List Char := [c, '-', '-', '>']

def EndsPlace (c : Char) : Prop := c = 'N' ∨ c = 'S'

theorem placeEnd_infix_places :
    placeEnd 'N' <:+: searchPlace.toList ∧ placeEnd 'S' <:+: resultsPlace.toList := by
  decide +kernel

def keepsApart (d : Char) : Bool := d == '\n' || d == ' ' || d == '"' || d == '<'

theorem not_mem_placeEnd (hc : EndsPlace c) (hd : keepsApart d = true) : d ∉ placeEnd c := by
  simp only [keepsApart, Bool.or_eq_true, beq_iff_eq] at hd
  rcases hc with rfl | rfl <;> rcases hd with ((rfl | rfl) | rfl) | rfl <;> decide

theorem free_before (hc : EndsPlace c) (hfirst : ¬ placeEnd c <:+: first)
    (hsecond : ¬ placeEnd c <:+: second) (hhead : second.head?.all keepsApart = true) :
    ¬ placeEnd c <:+: first ++ second :=
  not_infix_append_of_head hfirst hsecond fun d hd =>
    not_mem_placeEnd hc (by rwa [Option.mem_def.mp hd] at hhead)

theorem free_after (hc : EndsPlace c) (hfirst : ¬ placeEnd c <:+: first)
    (hsecond : ¬ placeEnd c <:+: second) (hlast : first.getLast?.all keepsApart = true) :
    ¬ placeEnd c <:+: first ++ second :=
  not_infix_append_of_last hfirst hsecond fun d hd =>
    not_mem_placeEnd hc (by rwa [Option.mem_def.mp hd] at hlast)

theorem free_data (hfirst : ¬ placeEnd c <:+: first) (hsecond : '>' ∉ second) :
    ¬ placeEnd c <:+: first ++ second :=
  not_infix_append_of_getLast hfirst (by simp [placeEnd]) (by simpa [placeEnd] using hsecond)

theorem comment_free (hc : EndsPlace c) (data : String) :
    ¬ placeEnd c <:+: (Xml.comment data).toList := by
  have hopening : ¬ placeEnd c <:+: "<!-- ".toList := by rcases hc with rfl | rfl <;> decide
  have hclosing : ¬ placeEnd c <:+: " -->".toList := by rcases hc with rfl | rfl <;> decide
  have hdata : ¬ placeEnd c <:+: (Xml.commentText data).toList := by
    rcases hc with rfl | rfl <;> exact Xml.not_infix_commentText (by decide) (by decide) data
  rw [Xml.comment, String.toList_append, String.toList_append]
  exact free_before hc (free_after hc hopening hdata rfl) hclosing rfl

theorem protocol_free (hc : EndsPlace c) {case : TestCase} {protocol : String}
    (h : Report.protocol options case = .ok protocol) : ¬ placeEnd c <:+: protocol.toList := by
  obtain ⟨address, -, h⟩ := bind_eq_ok.mp h
  obtain rfl := pure_eq_ok.mp h
  have hdata (data : String) : '>' ∉ (Xml.escapeAttribute data).toList :=
    Xml.bracket_not_mem_escapeAttribute (Or.inr rfl) data
  have hmarkup (markup : List Char)
      (hboth : ¬ placeEnd 'N' <:+: markup ∧ ¬ placeEnd 'S' <:+: markup) :
      ¬ placeEnd c <:+: markup := by
    rcases hc with rfl | rfl
    · exact hboth.1
    · exact hboth.2
  simp only [String.toList_append]
  apply free_before hc _ (hmarkup _ (by decide +kernel)) rfl
  apply free_data _ (Xml.bracket_not_mem_escape (Or.inr rfl) address)
  apply free_before hc _ (hmarkup _ (by decide +kernel)) rfl
  apply free_after hc _ (comment_free hc _) (by rw [List.getLast?_append]; rfl)
  apply free_before hc _ (hmarkup _ (by decide +kernel)) rfl
  apply free_data _ (hdata _)
  apply free_before hc _ (hmarkup _ (by decide +kernel)) rfl
  exact free_data (hmarkup _ (by decide +kernel)) (hdata _)

/-- `text` holds no end of a place and is whole lines, so that it makes none with what follows it. -/
structure Sealed (c : Char) (text : List Char) : Prop where
  free : ¬ placeEnd c <:+: text
  closed : ∀ d ∈ text.getLast?, d = '\n'

theorem Sealed.nil : Sealed c [] := by
  constructor <;> simp [placeEnd]

theorem Sealed.of_getLast (h : ¬ placeEnd c <:+: text) (hlast : text.getLast? = some '\n') :
    Sealed c text where
  free := h
  closed := by simp [hlast]

theorem Sealed.append (hc : EndsPlace c) (hfirst : Sealed c first) (hsecond : Sealed c second) :
    Sealed c (first ++ second) where
  free := not_infix_append_of_last hfirst.free hsecond.free fun d hd =>
    not_mem_placeEnd hc (by rw [hfirst.closed d hd]; rfl)
  closed d hd := by
    rw [List.getLast?_append, Option.mem_def, Option.or_eq_some_iff] at hd
    rcases hd with hd | ⟨-, hd⟩
    · exact hsecond.closed d hd
    · exact hfirst.closed d hd

theorem Sealed.line (h : ¬ placeEnd c <:+: text) : Sealed c (text ++ ['\n']) where
  free := free_data h (by decide)
  closed := by simp

theorem Sealed.join (hc : EndsPlace c) {parts : List String}
    (h : ∀ part ∈ parts, Sealed c part.toList) : Sealed c (String.join parts).toList := by
  induction parts with
  | nil => simpa using Sealed.nil
  | cons part parts ih =>
    obtain ⟨hpart, hparts⟩ := List.forall_mem_cons.mp h
    rw [String.join_cons, String.toList_append]
    exact hpart.append hc (ih hparts)

theorem sectionHeader_sealed (hc : EndsPlace c) {group : TestCase.Cases} {part : Section}
    (hpart : part ∈ sections approval group) : Sealed c (sectionHeader part.title).toList := by
  have htitle : part.title ∈ [none, some "approved", some "not approved"] := by
    cases approval with
    | none => simp_all [sections]
    | some approval =>
      obtain ⟨hpart, -⟩ := List.mem_filter.mp hpart
      rcases List.mem_pair.mp hpart with rfl | rfl <;> simp
  simp only [List.mem_cons, List.not_mem_nil, or_false] at htitle
  rcases htitle with htitle | htitle | htitle <;> rw [htitle]
  · simpa [sectionHeader] using Sealed.nil
  all_goals
    apply Sealed.of_getLast
    · rcases hc with rfl | rfl <;> decide +kernel
    · decide +kernel

theorem section_sealed (hc : EndsPlace c) {group : TestCase.Cases} {part : Section} {text : String}
    (hpart : part ∈ sections approval group) (h : part.render options = .ok text) :
    Sealed c text.toList := by
  obtain ⟨ordered, -, h⟩ := bind_eq_ok.mp h
  obtain ⟨protocols, hprotocols, h⟩ := bind_eq_ok.mp h
  obtain rfl := pure_eq_ok.mp h
  rw [String.toList_append]
  apply (sectionHeader_sealed hc hpart).append hc
  apply Sealed.join hc
  intro line hline
  obtain ⟨protocol, hmem, rfl⟩ := List.mem_map.mp hline
  obtain ⟨case, -, hcase⟩ := exists_of_mapM hprotocols hmem
  rw [String.toList_append]
  exact Sealed.line (protocol_free hc hcase)

theorem group_sealed (hc : EndsPlace c) {group : String × TestCase.Cases} {text : String}
    (h : renderGroup options approval group = .ok text) :
    Sealed c text.toList ∧ text.toList.head? = some '\n' := by
  obtain ⟨parts, hparts, h⟩ := bind_eq_ok.mp h
  obtain rfl := pure_eq_ok.mp h
  have hheader : Sealed c ("\n" ++ Xml.comment group.1 ++ "\n").toList := by
    rw [String.toList_append, String.toList_append]
    exact Sealed.line (free_after hc (by rcases hc with rfl | rfl <;> decide)
      (comment_free hc group.1) rfl)
  constructor
  · rw [String.toList_append]
    apply hheader.append hc
    apply Sealed.join hc
    intro text htext
    obtain ⟨part, hpart, hrender⟩ := exists_of_mapM hparts htext
    exact section_sealed hc hpart hrender
  · simp

theorem intoGroup_ne_nil (groups : Catalog TestCase.Cases) (entry : String × TestCase) :
    intoGroup groups entry ≠ [] := by
  intro hnil
  have hkey : setupKey entry.2.info.setup ∈ (intoGroup groups entry).keys := by
    rw [intoGroup, Catalog.mem_keys_put]
    exact Or.inl rfl
  rw [hnil] at hkey
  cases hkey

theorem groups_ne_nil (h : cases ≠ []) : groups cases ≠ [] := by
  have hfold : cases.foldl intoGroup ([] : Catalog TestCase.Cases) ≠ [] := by
    obtain ⟨before, entry, rfl⟩ := (List.eq_nil_or_concat' cases).resolve_left h
    rw [List.foldl_append]
    exact intoGroup_ne_nil _ _
  rw [← List.length_pos_iff] at hfold ⊢
  rwa [groups, List.length_mergeSort]

/-- Protocols of test cases are whole lines without a place, and a line feed comes first. -/
theorem protocols_sealed (hc : EndsPlace c) {text : String} (hcases : cases ≠ [])
    (h : protocols options approval cases = .ok text) :
    Sealed c text.toList ∧ text.toList.head? = some '\n' := by
  obtain ⟨parts, hparts, h⟩ := bind_eq_ok.mp h
  obtain rfl := pure_eq_ok.mp h
  have hgroup (part : String) (hpart : part ∈ parts) :
      Sealed c part.toList ∧ part.toList.head? = some '\n' := by
    obtain ⟨group, -, hgroup⟩ := exists_of_mapM hparts hpart
    exact group_sealed hc hgroup
  constructor
  · exact Sealed.join hc fun part hpart => (hgroup part hpart).1
  · have hne : parts ≠ [] := by
      rintro rfl
      have hmap := map_eq_of_mapM hparts
      exact groups_ne_nil hcases (List.map_eq_nil_iff.mp hmap)
    obtain ⟨part, rest, rfl⟩ := List.exists_cons_of_ne_nil hne
    rw [String.join_cons, String.toList_append, List.head?_append,
      (hgroup part List.mem_cons_self).2]
    rfl

theorem not_infix_places (h : ∀ c, EndsPlace c → ¬ placeEnd c <:+: text) :
    ¬ searchPlace.toList <:+: text ∧ ¬ resultsPlace.toList <:+: text :=
  ⟨fun hplace => h 'N' (Or.inl rfl) (placeEnd_infix_places.1.trans hplace),
    fun hplace => h 'S' (Or.inr rfl) (placeEnd_infix_places.2.trans hplace)⟩

/-- How the places of a template are filled: the protocols stand where its first place for results
was, and the search stands in its own first place for it, before the protocols or else after them. -/
structure Filling (template search protocols output : List Char) : Prop where
  placed : ∀ before after, FirstCut resultsPlace.toList template before after →
    ∃ before' after', output = before' ++ protocols ++ after' ∧
      (searchPlace.toList <:+: before →
        Filled searchPlace.toList search before before' ∧ after' = after) ∧
      (¬ searchPlace.toList <:+: before →
        before' = before ∧ Filled searchPlace.toList search after after')
  unplaced : ¬ resultsPlace.toList <:+: template →
    Filled searchPlace.toList search template output

def searchComment (search : String) : String :=
  "<!-- SEARCH: " ++ Xml.commentText search ++ " -->"

theorem comment_search (search : String) : Xml.comment ("SEARCH: " ++ search) = searchComment search := by
  rw [Xml.comment, Xml.commentText_append (by decide), ← String.append_assoc]
  rfl

theorem filling_fill {template search protocols : String} (hne : protocols ≠ "")
    (hplace : ¬ searchPlace.toList <:+: protocols.toList)
    (hhead : ∀ d ∈ protocols.toList.head?, d = '\n')
    (hlast : ∀ d ∈ protocols.toList.getLast?, d = '\n') :
    Filling template.toList (searchComment search).toList protocols.toList
      (fill template search protocols).toList := by
  have hfeed : '\n' ∉ searchPlace.toList := by decide
  rw [fill, replaceFirst, replaceFirst, String.toList_ofList, String.toList_ofList, comment_search]
  constructor
  · intro before after hcut
    rw [replaceFirst_of_firstCut hcut, replaceFirst_around hplace (by simpa using hne)
      (fun d hd => by rwa [hhead d hd]) (fun d hd => by rwa [hlast d hd])]
    split
    · rename_i hbefore
      refine ⟨_, after, rfl, fun _ => ⟨filled_replaceFirst _ _ _, rfl⟩, fun hnot => absurd hbefore hnot⟩
    · rename_i hbefore
      refine ⟨before, _, rfl, fun hplace => absurd hplace hbefore, fun _ => ⟨rfl, filled_replaceFirst _ _ _⟩⟩
  · intro hnot
    rw [replaceFirst_of_absent hnot]
    exact filled_replaceFirst _ _ _

/-- No data of a report is taken for a place: the protocols hold none and stand in the report as they
are, and the search fills the first place for it that the template itself has. -/
theorem render_fills_places {request : Request} {output : String} (hcases : cases ≠ [])
    (h : render request cases = .ok output) :
    ∃ text, protocols request.options request.approval cases = .ok text ∧
      (¬ searchPlace.toList <:+: text.toList ∧ ¬ resultsPlace.toList <:+: text.toList) ∧
      Filling request.template.toList (searchComment request.search).toList text.toList
        output.toList := by
  obtain ⟨text, htext, h⟩ := bind_eq_ok.mp h
  obtain rfl := pure_eq_ok.mp h
  have hsealed (c : Char) (hc : EndsPlace c) := protocols_sealed hc hcases htext
  have hplaces := not_infix_places fun c hc => (hsealed c hc).1.free
  obtain ⟨hlines, hhead⟩ := hsealed 'N' (Or.inl rfl)
  refine ⟨text, htext, hplaces, filling_fill ?_ hplaces.1 ?_ hlines.closed⟩
  · rintro rfl
    cases hhead
  · intro d hd
    rw [hhead] at hd
    exact (Option.some.inj hd).symm

end Report

namespace Sample

/-- A test case whose data hold both places. -/
def adverse : TestCase where
  path := "t/test_cases/" ++ Report.searchPlace ++ "/test_a.py"
  info :=
    { identifier := Report.searchPlace, setup := Report.resultsPlace, estimate := Report.searchPlace }

def adverseRequest : Report.Request where
  search := Report.resultsPlace
  options := { project := Report.searchPlace }

end Sample

namespace Report

theorem adverse_fills_places :
    ∃ output, render Sample.adverseRequest [(searchPlace, Sample.adverse)] = .ok output ∧
      ∃ text, protocols Sample.adverseRequest.options none [(searchPlace, Sample.adverse)] = .ok text ∧
        (¬ searchPlace.toList <:+: text.toList ∧ ¬ resultsPlace.toList <:+: text.toList) ∧
        Filling defaultTemplate.toList (searchComment resultsPlace).toList text.toList
          output.toList := by
  have hscript : scriptPath Sample.adverseRequest.options.directory Sample.adverse.path =
      .ok ("test_cases/" ++ searchPlace ++ "/test_a.py") := by decide +kernel
  obtain ⟨protocol, hprotocol⟩ := exists_protocol rfl hscript
  have hreportable : Reportable Sample.adverseRequest.options (fun _ => 0) (fun _ => protocol)
      [(searchPlace, Sample.adverse)] := by
    constructor
    · exact List.nodup_singleton _
    · simp [Sample.adverse]
    · simp only [List.mem_singleton, forall_eq]
      decide +kernel
    · simpa using hprotocol
  have hrender : ∃ output,
      render Sample.adverseRequest [(searchPlace, Sample.adverse)] = .ok output := by
    rw [render, hreportable.protocols_eq]
    exact ⟨_, rfl⟩
  obtain ⟨output, hrender⟩ := hrender
  exact ⟨output, hrender, render_fills_places (List.cons_ne_nil _ _) hrender⟩

end Report
end TestReach
