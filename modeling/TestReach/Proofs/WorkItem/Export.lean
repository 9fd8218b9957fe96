import TestReach.Proofs.Catalog
import TestReach.Proofs.Xml.DocumentOrder
import TestReach.WorkItem.Export

namespace TestReach.WorkItem.Export

variable {root element : Xml.Element} {k : String}

/-- The identifier that an element for a work item gives: the trimmed text of the first `id` among the
children of its first `fields`. -/
def identifier? (element : Xml.Element) : Option String :=
  if element.isNamed "workItem" then
    ((element.child? "fields").bind (·.child? "id")).map fun child =>
      String.ofList (Text.strip child.text.toList)
  else none

/-- The name of the first `status` among the children of the first `fields`; empty if there is none. -/
def statusOf (element : Xml.Element) : String :=
  (((element.child? "fields").bind (·.child? "status")).bind (·.attribute? "name")).getD ""

def itemFor? (k : String) (element : Xml.Element) : Option WorkItem :=
  if element.isNamed "workItem" then (item element).toOption.filter (·.identifier == k) else none

def entryOf? (element : Xml.Element) : Option (String × WorkItem) := do
  let item ← (item element).toOption
  return (item.identifier, item)

theorem get?_entries (elements : List Xml.Element) (k : String) :
    Catalog.get? ((elements.filter (·.isNamed "workItem")).filterMap entryOf?) k =
      elements.findSome? (itemFor? k) := by
  induction elements with
  | nil => rfl
  | cons element rest ih =>
    by_cases hnamed : element.isNamed "workItem" = true
    · rw [List.filter_cons, if_pos hnamed, List.findSome?_cons, ← ih]
      cases hitem : item element with
      | error skip => simp [itemFor?, entryOf?, hnamed, hitem, Except.toOption]
      | ok found =>
        have hentry : entryOf? element = some (found.identifier, found) := by
          simp [entryOf?, hitem, Except.toOption]
        rw [List.filterMap_cons_some hentry, Catalog.get?_cons]
        by_cases hk : k = found.identifier
        · simp [itemFor?, hnamed, hitem, Except.toOption, Option.filter, hk]
        · simp [itemFor?, hnamed, hitem, Except.toOption, Option.filter, hk, Ne.symm hk]
    · rw [List.filter_cons, if_neg hnamed, List.findSome?_cons, ← ih, itemFor?, if_neg hnamed]

theorem get?_plan (root : Xml.Element) (k : String) :
    (plan root).get? k = root.all.reverse.findSome? (itemFor? k) := by
  rw [← get?_entries, List.filter_reverse, List.filterMap_reverse, ← Catalog.get?_ofList]
  rfl

theorem itemFor?_eq_some_iff {found : WorkItem} : itemFor? k element = some found ↔
    element.isNamed "workItem" = true ∧ item element = .ok found ∧ found.identifier = k := by
  unfold itemFor?
  split
  · rename_i hnamed
    cases hitem : item element <;> simp [Except.toOption, Option.filter_eq_some_iff, hnamed]
  · rename_i hnamed
    simp [hnamed]

theorem exists_itemFor?_iff : (∃ found, itemFor? k element = some found) ↔
    k ≠ "" ∧ identifier? element = some k := by
  simp only [itemFor?_eq_some_iff, identifier?]
  cases hfields : element.child? "fields" with
  | none => simp [item, hfields]
  | some fields =>
    cases hchild : fields.child? "id" with
    | none => simp [item, hfields, hchild, textOf]
    | some child =>
      -- An `id` with nothing but white space is skipped like one that is not there.
      by_cases hempty : String.ofList (Text.strip child.text.toList) = ""
      · have hskip : item element = .error (.noIdentifier (textOf fields "title")) := by
          simp [item, hfields, hchild, textOf, hempty]
        simp only [hskip, hchild, hempty, Option.bind_some, Option.map_some]
        grind
      · have hitem : ∃ found, item element = .ok found ∧
            found.identifier = String.ofList (Text.strip child.text.toList) := by
          simp [item, hfields, hchild, textOf, hempty]
        obtain ⟨found, hfound, hidentifier⟩ := hitem
        simp only [hfound, hchild, Option.bind_some, Option.map_some, ← hidentifier] at hempty ⊢
        grind

theorem status_of_item {found : WorkItem} (h : item element = .ok found) :
    found.status = statusOf element := by
  unfold item at h
  split at h
  · cases h
  · rename_i fields hfields
    dsimp only at h
    split at h
    · cases h
    · cases h
      rw [statusOf, hfields]
      cases hstatus : fields.child? "status" <;> simp [valueOf, hstatus]

/-- `statuses` has the status of the last element in the document that gives the identifier `k`. -/
def ApprovedBy (root : Xml.Element) (statuses : List String) (k : String) : Prop :=
  ∃ p element, root.LastAt (identifier? · = some k) p element ∧
    ∃ status ∈ statuses, Text.lower status = Text.lower (statusOf element)

/-- A plan approves what the last elements in the document do, but not the empty identifier. -/
theorem approves_plan_iff (root : Xml.Element) (statuses : List String) (k : String) :
    (plan root).approves statuses k = true ↔ k ≠ "" ∧ ApprovedBy root statuses k := by
  have hnone (element : Xml.Element) : itemFor? k element = none ↔
      ¬ (k ≠ "" ∧ identifier? element = some k) := by
    rw [← exists_itemFor?_iff, not_exists, Option.eq_none_iff_forall_ne_some]
  have happroved (element : Xml.Element) {found : WorkItem} (hfound : item element = .ok found) :
      found.isApproved statuses = true ↔
        ∃ status ∈ statuses, Text.lower status = Text.lower (statusOf element) := by
    rw [isApproved, List.contains_iff_mem, List.mem_map, status_of_item hfound]
  rw [Plan.approves, get?_plan, Option.any_eq_true]
  constructor
  · rintro ⟨found, hfound, hstatus⟩
    obtain ⟨after, element, before, hsplit, hitem, hafter⟩ := List.findSome?_eq_some_iff.mp hfound
    obtain ⟨hk, hidentifier⟩ := exists_itemFor?_iff.mp ⟨found, hitem⟩
    obtain ⟨-, hok, -⟩ := itemFor?_eq_some_iff.mp hitem
    obtain ⟨p, hlast⟩ := Xml.Element.exists_lastAt_iff.mpr ⟨hidentifier, after, before, hsplit,
      fun other hother hsame => (hnone other).mp (hafter other hother) ⟨hk, hsame⟩⟩
    exact ⟨hk, p, element, hlast, (happroved element hok).mp hstatus⟩
  · rintro ⟨hk, p, element, hlast, hstatus⟩
    obtain ⟨hidentifier, after, before, hsplit, hafter⟩ := Xml.Element.exists_lastAt_iff.mp ⟨p, hlast⟩
    obtain ⟨found, hfound⟩ := exists_itemFor?_iff.mpr ⟨hk, hidentifier⟩
    obtain ⟨-, hok, -⟩ := itemFor?_eq_some_iff.mp hfound
    refine ⟨found, List.findSome?_eq_some_iff.mpr ⟨after, element, before, hsplit, hfound, ?_⟩,
      (happroved element hok).mpr hstatus⟩
    exact fun other hother => (hnone other).mpr fun h => hafter other hother h.2

def statusesFor (root : Xml.Element) (k : String) : List String :=
  (root.all.filter (identifier? · == some k)).map statusOf

theorem approvedBy_iff_getLast? {statuses : List String} : ApprovedBy root statuses k ↔
    ∃ last ∈ (statusesFor root k).getLast?, ∃ status ∈ statuses, Text.lower status = Text.lower last := by
  have hlast (element : Xml.Element) : (∃ p, root.LastAt (identifier? · = some k) p element) ↔
      (root.all.filter (identifier? · == some k)).getLast? = some element := by
    rw [Xml.Element.exists_lastAt_iff, List.getLast?_eq_head?_reverse, ← List.filter_reverse,
      List.head?_filter, List.find?_eq_some_iff_append]
    simp
  simp only [statusesFor, List.getLast?_map, Option.mem_def, Option.map_eq_some_iff, ← hlast]
  constructor
  · rintro ⟨p, element, hat, hstatus⟩
    exact ⟨_, ⟨element, ⟨p, hat⟩, rfl⟩, hstatus⟩
  · rintro ⟨_, ⟨element, ⟨p, hat⟩, rfl⟩, hstatus⟩
    exact ⟨p, element, hat, hstatus⟩

end TestReach.WorkItem.Export
