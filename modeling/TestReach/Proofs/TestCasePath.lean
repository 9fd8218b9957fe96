import TestReach.Proofs.LiteralTerm
import TestReach.Proofs.Pattern.Matches
import TestReach.Proofs.Pattern.Operator
import TestReach.Proofs.Split
import TestReach.TestCase

namespace TestReach.TestCase.Layout

open Pattern

section Source

variable {b : Builder} {rest : List Char}

theorem readMembers_separators (start pos : Nat) (hrest : rest ≠ ['\\']) (fuel : Nat) :
    readMembers start (fuel + 3) [] ⟨'\\' :: '\\' :: '/' :: ']' :: rest, pos⟩ =
      .ok ([.code '\\'.toNat, .code '/'.toNat], ⟨rest, pos + 4⟩) := by
  simp [readMembers, Reader.accept, Reader.sees, Reader.peek?, Reader.next, Reader.skip,
    Symbol.width, bind, Except.bind, Except.map, pure, Except.pure, hrest, category?, isOctalDigit,
    Reader.codeEscape?, controlCode?]

theorem readSymbols_separator (hmode : b.mode = {}) (hrest : rest ≠ ['\\']) (pos fuel : Nat) :
    readSymbols (fuel + 1) b ⟨'[' :: '\\' :: '\\' :: '/' :: ']' :: rest, pos⟩ =
      readSymbols fuel (b.atom (.one (separator false))) ⟨rest, pos + 5⟩ := by
  have haccept : Reader.accept ⟨'\\' :: '\\' :: '/' :: ']' :: rest, pos + 1⟩ '^' =
      .ok (false, ⟨'\\' :: '\\' :: '/' :: ']' :: rest, pos + 1⟩) := rfl
  have hmembers := readMembers_separators pos (pos + 1) hrest (rest.length + 2)
  have hset : readSet {} pos ⟨'\\' :: '\\' :: '/' :: ']' :: rest, pos + 1⟩ =
      .ok (separator false, ⟨rest, pos + 5⟩) := by
    simp only [readSet, haccept, bind, Except.bind, List.length_cons, hmembers]
    rfl
  refine readSymbols_of_read rfl (by decide) (by decide) (Reader.skip_plain (by simp)) ?_ fuel
  simp only [Builder.read, hmode, hset, bind, Except.bind]
  rfl

theorem readSymbols_noSeparator (hmode : b.mode = {}) (hrest : rest ≠ ['\\']) (pos fuel : Nat) :
    readSymbols (fuel + 1) b ⟨'[' :: '^' :: '\\' :: '\\' :: '/' :: ']' :: rest, pos⟩ =
      readSymbols fuel (b.atom (.one (separator true))) ⟨rest, pos + 6⟩ := by
  have haccept : Reader.accept ⟨'^' :: '\\' :: '\\' :: '/' :: ']' :: rest, pos + 1⟩ '^' =
      .ok (true, ⟨'\\' :: '\\' :: '/' :: ']' :: rest, pos + 2⟩) := rfl
  have hmembers := readMembers_separators pos (pos + 2) hrest (rest.length + 2)
  have hset : readSet {} pos ⟨'^' :: '\\' :: '\\' :: '/' :: ']' :: rest, pos + 1⟩ =
      .ok (separator true, ⟨rest, pos + 6⟩) := by
    simp only [readSet, haccept, bind, Except.bind, List.length_cons, hmembers]
    rfl
  refine readSymbols_of_read rfl (by decide) (by decide) (Reader.skip_plain (by simp)) ?_ fuel
  simp only [Builder.read, hmode, hset, bind, Except.bind]
  rfl

theorem sees_escape {c d : Char} (hc : c ∈ specialChars) (hd : d ≠ '\\') (hdc : d ≠ c)
    (text : List Char) (pos : Nat) : Reader.sees ⟨escape text ++ [d], pos⟩ c = false := by
  cases text with
  | nil =>
    have hpeek : Reader.peek? ⟨[d], pos⟩ = some (.plain d) := Reader.peek?_plain hd
    simp [escape, Reader.sees, hpeek, hdc]
  | cons first text =>
    by_cases hfirst : first ∈ specialChars
    · rw [escape_cons_special hfirst]
      rfl
    · have hbackslash : first ≠ '\\' := by
        rintro rfl
        exact hfirst (by decide)
      have hne : first ≠ c := fun h => hfirst (h ▸ hc)
      rw [escape_cons_plain hfirst, List.cons_append]
      simp [Reader.sees, Reader.peek?_plain hbackslash, hne]

theorem toList_source (layout : Layout) : layout.source.toList =
    escape layout.directory.toList ++ ("[\\\\/].*?[\\\\/]".toList ++ (escape layout.opening.toList ++
      ("[^\\\\/]*".toList ++ (escape layout.ending.toList ++ ['$'])))) := by
  simp [source]

theorem source_ne_backslash (layout : Layout) : layout.source.toList ≠ ['\\'] := by
  intro h
  have hmem : '$' ∈ layout.source.toList := by simp [toList_source]
  rw [h] at hmem
  cases List.mem_singleton.mp hmem

def withGap (b : Builder) : Builder :=
  ((b.atom (.one (separator false))).push (.repetition (.many .lazy 0 none .notLineFeed))).atom
    (.one (separator false))

def withMiddle (b : Builder) : Builder :=
  b.push (.repetition (.many .greedy 0 none (separator true)))

theorem readSymbols_gap (hmode : b.mode = {}) (hrest : rest ≠ ['\\']) (pos fuel : Nat) :
    readSymbols (fuel + 4) b ⟨"[\\\\/].*?[\\\\/]".toList ++ rest, pos⟩ =
      readSymbols fuel (withGap b) ⟨rest, pos + 13⟩ := by
  have htext : "[\\\\/].*?[\\\\/]".toList ++ rest = '[' :: '\\' :: '\\' :: '/' :: ']' :: '.' :: '*' ::
      '?' :: '[' :: '\\' :: '\\' :: '/' :: ']' :: rest := rfl
  have hseparator : (b.atom (.one (separator false))).mode = {} := hmode
  have hgap : ((b.atom (.one (separator false))).push
      (.repetition (.many .lazy 0 none .notLineFeed))).mode = {} := hmode
  rw [htext, readSymbols_separator hmode (by simp), readSymbols_dot hseparator (by simp),
    readSymbols_star hseparator (by simp) (Builder.repeatLast_lazy (by simp) _ _ _)]
  exact readSymbols_separator hgap hrest (pos + 8) fuel

theorem readSymbols_middle (hmode : b.mode = {}) (ending : List Char) (pos fuel : Nat) :
    readSymbols (fuel + 2) b ⟨"[^\\\\/]*".toList ++ (escape ending ++ ['$']), pos⟩ =
      readSymbols fuel (withMiddle b) ⟨escape ending ++ ['$'], pos + 7⟩ := by
  have htext : "[^\\\\/]*".toList ++ (escape ending ++ ['$']) =
      '[' :: '^' :: '\\' :: '\\' :: '/' :: ']' :: '*' :: (escape ending ++ ['$']) := rfl
  have hend : escape ending ++ ['$'] ≠ ['\\'] := escape_append_ne_backslash ending (by simp)
  have hlazy : Reader.sees ⟨escape ending ++ ['$'], pos + 7⟩ '?' = false :=
    sees_escape (by decide) (by decide) (by decide) ending (pos + 7)
  have hpossessive : Reader.sees ⟨escape ending ++ ['$'], pos + 7⟩ '+' = false :=
    sees_escape (by decide) (by decide) (by decide) ending (pos + 7)
  rw [htext, readSymbols_noSeparator hmode (by simp),
    readSymbols_star hmode hend (Builder.repeatLast_greedy hlazy hpossessive _ _ _)]
  rfl

/-- What has been read of a pattern when its end is reached. -/
def readLayout (directory opening ending : List Char) : Builder :=
  ((withMiddle ((withGap (Builder.blank.spell directory)).spell opening)).spell ending).push
    (.anchor .lastLineEnd)

/-- Every character of a name takes one step of reading, and so does each of the other symbols. -/
theorem readSymbols_source (directory opening ending : List Char) (fuel : Nat) :
    ∃ stop, readSymbols (directory.length + (opening.length + (ending.length + (fuel + 1) + 2) + 4))
      .blank ⟨escape directory ++ ("[\\\\/].*?[\\\\/]".toList ++ (escape opening ++
        ("[^\\\\/]*".toList ++ (escape ending ++ ['$'])))), 0⟩ =
      readSymbols fuel (readLayout directory opening ending) ⟨[], stop⟩ := by
  have hmiddle : "[^\\\\/]*".toList ++ (escape ending ++ ['$']) ≠ ['\\'] := by simp
  have hopening := escape_append_ne_backslash opening hmiddle
  have hgap : "[\\\\/].*?[\\\\/]".toList ++ (escape opening ++
      ("[^\\\\/]*".toList ++ (escape ending ++ ['$']))) ≠ ['\\'] := by simp
  have hend : ['$'] ≠ ['\\'] := by decide
  obtain ⟨p, hp⟩ := readSymbols_escape .blank rfl directory hgap 0
    (opening.length + (ending.length + (fuel + 1) + 2) + 4)
  obtain ⟨q, hq⟩ := readSymbols_escape (withGap (Builder.blank.spell directory)) rfl opening hmiddle
    (p + 13) (ending.length + (fuel + 1) + 2)
  obtain ⟨r, hr⟩ := readSymbols_escape
    (withMiddle ((withGap (Builder.blank.spell directory)).spell opening)) rfl ending hend
    (q + 7) (fuel + 1)
  refine ⟨r + 1, ?_⟩
  rw [hp, readSymbols_gap rfl hopening, hq, readSymbols_middle rfl, hr]
  exact readSymbols_lineEnd rfl (by simp) fuel

theorem parse_source (layout : Layout) : parse layout.source.toList = .ok ⟨layout.node, []⟩ := by
  have hnode : layout.node = .inOrder ((readLayout layout.directory.toList layout.opening.toList
      layout.ending.toList).frame.pieces.reverse.map Piece.node) := by
    simp [node, literal, readLayout, withGap, withMiddle, Builder.spell, Builder.atom, Builder.push,
      Frame.push, Builder.blank, Piece.node, Function.comp_def]
  obtain ⟨fuel, hfuel⟩ : ∃ fuel, layout.source.toList.length + 1 = layout.directory.toList.length +
      (layout.opening.toList.length + (layout.ending.toList.length + (fuel + 1 + 1) + 2) + 4) := by
    have hdirectory := length_le_length_escape layout.directory.toList
    have hopening := length_le_length_escape layout.opening.toList
    have hending := length_le_length_escape layout.ending.toList
    have hsource : layout.source.toList.length = (escape layout.directory.toList).length +
        (13 + ((escape layout.opening.toList).length +
          (7 + ((escape layout.ending.toList).length + 1)))) := by
      simp [toList_source]
      omega
    exact ⟨layout.source.toList.length - (layout.directory.toList.length +
      layout.opening.toList.length + layout.ending.toList.length + 7), by omega⟩
  obtain ⟨stop, hread⟩ := readSymbols_source layout.directory.toList layout.opening.toList
    layout.ending.toList (fuel + 1)
  rw [hnode]
  refine parse_of_readSymbols stop (source_ne_backslash layout) ?_ ?_
  · rw [hfuel, toList_source]
    exact hread
  · intro piece hpiece
    simp only [readLayout, withGap, withMiddle, Builder.spell, Builder.atom, Builder.push, Frame.push,
      Builder.blank, List.append_nil, List.mem_cons, List.mem_append, List.mem_reverse,
      List.mem_map] at hpiece
    rcases hpiece with rfl | ⟨c, -, rfl⟩ | rfl | ⟨c, -, rfl⟩ | rfl | rfl | rfl | ⟨c, -, rfl⟩ <;> rfl

end Source

def isSeparator (c : Char) : Bool :=
  c == '/' || c == '\\'

theorem separator_admits (negated : Bool) (c : Char) :
    (separator negated).admits c = (isSeparator c != negated) := by
  have hcode (d : Char) : (decide (d.toNat ≤ c.toNat) && decide (c.toNat ≤ d.toNat)) = (c == d) := by
    rw [Bool.eq_iff_iff]
    simp [← Char.toNat_inj, Nat.le_antisymm_iff, and_comm]
  simp only [separator, CharTest.admits, List.any_cons, List.any_nil, ClassItem.holds, Folding.fold,
    hcode, Bool.false_or, isSeparator, Bool.or_comm]

/-- A path is that of a test case if it can be cut into the end of a directory, a gap between two
separators, and a file name, which a line feed may follow. -/
structure Cut (layout : Layout) (path before : List Char) (first : Char) (gap : List Char)
    (second : Char) (middle after : List Char) : Prop where
  eq_append : path = before ++ (layout.directory.toList ++ first :: (gap ++ second ::
    (layout.opening.toList ++ (middle ++ (layout.ending.toList ++ after)))))
  first_separates : isSeparator first = true
  second_separates : isSeparator second = true
  gap_whole : '\n' ∉ gap
  middle_whole : ∀ c ∈ middle, isSeparator c = false
  ended : after = [] ∨ after = ['\n']

theorem holds_iff_cut {layout : Layout} {path : String} : layout.holds path = true ↔
    ∃ before first gap second middle after,
      Cut layout path.toList before first gap second middle after := by
  have hnode : layout.node = .inOrder (literal layout.directory ++ (.one (separator false) ::
      .many .lazy 0 none .notLineFeed :: .one (separator false) :: (literal layout.opening ++
      (.many .greedy 0 none (separator true) :: (literal layout.ending ++
      [.anchor .lastLineEnd]))))) := by
    simp [node]
  rw [holds, hnode, isSome_search_iff]
  have hlazy : Greed.lazy ≠ .possessive := by decide
  have hgreedy : Greed.greedy ≠ .possessive := by decide
  simp only [literal, matches_spelled, matches_one, matches_many hlazy, matches_many hgreedy,
    matches_lastLineEnd, separator_admits]
  constructor
  · rintro ⟨before, _, hpath, _, rfl, first, _, rfl, hfirst, gap, _, rfl, hgap, second, _, rfl, hsecond,
      _, rfl, middle, _, rfl, hmiddle, after, rfl, hafter⟩
    have hwhole : '\n' ∉ gap := fun h => by simpa [CharTest.admits] using hgap _ h
    exact ⟨before, first, gap, second, middle, after, hpath, by simpa using hfirst,
      by simpa using hsecond, hwhole, by simpa using hmiddle, hafter⟩
  · rintro ⟨before, first, gap, second, middle, after, hcut⟩
    have hgap (c : Char) (hc : c ∈ gap) : CharTest.notLineFeed.admits c = true := by
      have hne : c ≠ '\n' := fun h => hcut.gap_whole (h ▸ hc)
      simpa [CharTest.admits] using hne
    exact ⟨before, _, hcut.eq_append, _, rfl, first, _, rfl, by simpa using hcut.first_separates, gap,
      _, rfl, hgap, second, _, rfl, by simpa using hcut.second_separates, _, rfl, middle, _, rfl,
      by simpa using hcut.middle_whole, after, rfl, hcut.ended⟩

def components (path : List Char) : List (List Char) :=
  Text.split isSeparator path

/-- The last component, `name`, is that of a test case, and so is a directory at least two above it. -/
structure Describes (layout : Layout) (above : List (List Char)) (name : List Char) : Prop where
  directory : ∃ c ∈ above, layout.directory.toList <:+ c
  opening : layout.opening.toList <+: name
  ending : layout.ending.toList <:+ name
  length_le : layout.opening.toList.length + layout.ending.toList.length ≤ name.length

variable {layout : Layout} {path before gap middle : List Char} {first second : Char}

def NamesWhole (layout : Layout) : Prop :=
  ∀ name ∈ [layout.directory, layout.opening, layout.ending], ∀ c ∈ name.toList, isSeparator c = false

theorem Cut.describes (h : Cut layout path before first gap second middle [])
    (hwhole : NamesWhole layout) : ∃ above parent name,
      components path = above ++ [parent, name] ∧ Describes layout above name := by
  have hdirectory := hwhole layout.directory (by simp)
  have hopening := hwhole layout.opening (by simp)
  have hending := hwhole layout.ending (by simp)
  have hname : ∀ c ∈ layout.opening.toList ++ (middle ++ layout.ending.toList),
      isSeparator c = false := by
    simp only [List.forall_mem_append]
    exact ⟨hopening, h.middle_whole, hending⟩
  obtain ⟨pieces, last, -, hpieces⟩ := Text.exists_split_append hdirectory before
  obtain ⟨parents, parent, hgap⟩ :=
    (List.eq_nil_or_concat' _).resolve_left (Text.split_ne_nil isSeparator gap)
  refine ⟨pieces ++ [last ++ layout.directory.toList] ++ parents, parent,
    layout.opening.toList ++ (middle ++ layout.ending.toList), ?_, ?_⟩
  · rw [components, h.eq_append, List.append_nil, ← List.append_assoc before,
      Text.split_append_separator h.first_separates, Text.split_append_separator h.second_separates,
      hpieces, hgap, Text.split_of_whole hname]
    simp
  · constructor
    · exact ⟨last ++ layout.directory.toList, by simp, List.suffix_append _ _⟩
    · exact List.prefix_append _ _
    · rw [← List.append_assoc]
      exact List.suffix_append _ _
    · simp only [List.length_append]
      omega

theorem exists_cut {above : List (List Char)} {parent name : List Char}
    (hpath : components path = above ++ [parent, name]) (h : Describes layout above name)
    (hline : '\n' ∉ path) : ∃ before first gap second middle,
      Cut layout path before first gap second middle [] := by
  obtain ⟨_, hc, before, rfl⟩ := h.directory
  obtain ⟨front, back, rfl⟩ := List.append_of_mem hc
  -- The path is cut in front of its last component, and what is left of it behind the directory.
  have hlast : components path = (front ++ [before ++ layout.directory.toList] ++ (back ++ [parent])) ++
      [name] := by
    rw [hpath]
    simp
  have hwhole : ∀ c ∈ name, isSeparator c = false :=
    Text.not_separator_of_mem_split (hlast ▸ by simp : name ∈ components path)
  obtain ⟨above, second, name', rfl, hsecond, habove, hname⟩ :=
    Text.exists_of_split_eq_append hlast (by simp) (by simp)
  obtain rfl : name' = name := Text.eq_of_split_singleton hname
  obtain ⟨upTo, first, gap, rfl, hfirst, hupTo, -⟩ :=
    Text.exists_of_split_eq_append habove (by simp) (by simp)
  obtain ⟨start, rfl⟩ := Text.suffix_of_split_eq_append hupTo
  obtain ⟨rest, rfl⟩ := h.opening
  have hending : layout.ending.toList <:+ rest := by
    apply List.suffix_of_suffix_length_le h.ending (List.suffix_append _ _)
    have hlength := h.length_le
    rw [List.length_append] at hlength
    omega
  obtain ⟨middle, rfl⟩ := hending
  refine ⟨start ++ before, first, gap, second, middle, ⟨by simp, hfirst, hsecond, ?_, ?_, Or.inl rfl⟩⟩
  · exact fun h => hline (by simp [h])
  · exact fun c hc => hwhole c (by simp [hc])

/-- The pattern of a layout compiles from its written form, and a path matches it just if the last
component has the opening and the ending of a test case, side by side, and a component at least two
above it ends with the name of the directory. -/
theorem holds_iff_components (hwhole : NamesWhole layout) {path : String}
    (hline : '\n' ∉ path.toList) :
    Pattern.compile layout.source = .ok ⟨layout.source, layout.node, []⟩ ∧
      (layout.holds path = true ↔ ∃ above parent name,
        components path.toList = above ++ [parent, name] ∧ Describes layout above name) := by
  constructor
  · rw [compile, parse_source]
    rfl
  · rw [holds_iff_cut]
    constructor
    · rintro ⟨before, first, gap, second, middle, after, hcut⟩
      obtain rfl : after = [] := by
        refine hcut.ended.resolve_right ?_
        rintro rfl
        exact hline (by simp [hcut.eq_append])
      exact hcut.describes hwhole
    · rintro ⟨above, parent, name, hpath, hdescribes⟩
      obtain ⟨before, first, gap, second, middle, hcut⟩ := exists_cut hpath hdescribes hline
      exact ⟨before, first, gap, second, middle, [], hcut⟩

/-- Names of operators of patterns, an empty component, and a file name without a middle. -/
theorem adverse_path_holds :
    NamesWhole ⟨"(a|*", "t[", "+.y$"⟩ ∧ '\n' ∉ "r/x(a|*\\\\g/t[+.y$".toList ∧
      components "r/x(a|*\\\\g/t[+.y$".toList =
        ["r".toList, "x(a|*".toList, [], "g".toList, "t[+.y$".toList] ∧
      holds ⟨"(a|*", "t[", "+.y$"⟩ "r/x(a|*\\\\g/t[+.y$" = true := by
  have hwhole : NamesWhole ⟨"(a|*", "t[", "+.y$"⟩ := by
    have hall : ∀ name ∈ ["(a|*", "t[", "+.y$"], name.toList.any isSeparator = false := by decide
    exact fun name hname => by simpa using hall name hname
  have hline : '\n' ∉ "r/x(a|*\\\\g/t[+.y$".toList := by decide
  have hpath : components "r/x(a|*\\\\g/t[+.y$".toList =
      ["r".toList, "x(a|*".toList, []] ++ ["g".toList, "t[+.y$".toList] := by decide
  have hdescribes : Describes ⟨"(a|*", "t[", "+.y$"⟩ ["r".toList, "x(a|*".toList, []]
      "t[+.y$".toList := ⟨⟨"x(a|*".toList, by decide, by decide⟩, by decide, by decide, by decide⟩
  obtain ⟨-, hiff⟩ := holds_iff_components hwhole hline
  exact ⟨hwhole, hline, hpath, hiff.mpr ⟨_, _, _, hpath, hdescribes⟩⟩

end TestReach.TestCase.Layout
