import BrowserControl.Locating.Page
import Mathlib.Data.List.Nodup
import Mathlib.Logic.Relation

/-!
# Below an Element

The elements that are searched for an element are those strictly below it, the children of its
node, their children, and so on (`mem_descendants_iff`).  They come in document order, which is the
lexicographic order of their paths (`pairwise_path_lt_descendants`), so that none comes twice.
-/

namespace BrowserControl.Element

/-- One element is directly below another one, at one of its positions. -/
def IsChildOf (child parent : Element) : Prop :=
  ∃ position, parent.node.children[position]? = some child.node ∧
    child.path = parent.path ++ [position]

/-- One element is strictly below another one. -/
def IsBelow (lower upper : Element) : Prop :=
  Relation.TransGen (fun parent child ↦ child.IsChildOf parent) upper lower

/-- What is below an element is a child of it or below a child. -/
theorem isBelow_iff_exists_child {lower upper : Element} :
    lower.IsBelow upper ↔
      ∃ child : Element, child.IsChildOf upper ∧ (lower = child ∨ lower.IsBelow child) := by
  unfold IsBelow
  rw [Relation.TransGen.head'_iff]
  simp only [Relation.reflTransGen_iff_eq_or_transGen]

/-- The path of an element below another one goes on from that of the upper one. -/
theorem IsBelow.exists_path_eq {lower upper : Element} (hbelow : lower.IsBelow upper) :
    ∃ position rest, lower.path = upper.path ++ position :: rest := by
  induction hbelow with
  | single hchild =>
    obtain ⟨position, -, hpath⟩ := hchild
    exact ⟨position, [], hpath⟩
  | tail _ hchild ih =>
    obtain ⟨last, -, hpath⟩ := hchild
    obtain ⟨position, rest, hupper⟩ := ih
    refine ⟨position, rest ++ [last], ?_⟩
    rw [hpath, hupper, List.append_assoc]
    rfl

/-! ## Membership -/

mutual

/-- The walk through a tree meets what is below its root. -/
theorem mem_below_iff (node : Node) {path : List Nat} {element : Element} :
    element ∈ below path node ↔ element.IsBelow ⟨path, node⟩ := by
  obtain ⟨name, labels, displayed, faults, children⟩ := node
  rw [below, mem_belowSiblings_iff children, isBelow_iff_exists_child]
  constructor
  · rintro ⟨position, child, hchild, hbelow⟩
    rw [Nat.zero_add] at hbelow
    exact ⟨⟨path ++ [position], child⟩, ⟨position, hchild, rfl⟩, hbelow⟩
  · rintro ⟨⟨_, child⟩, ⟨position, hchild, rfl⟩, hbelow⟩
    refine ⟨position, child, hchild, ?_⟩
    rw [Nat.zero_add]
    exact hbelow

theorem mem_belowSiblings_iff (siblings : List Node) {path : List Nat} {position : Nat}
    {element : Element} :
    element ∈ belowSiblings path position siblings ↔
      ∃ (offset : Nat) (node : Node), siblings[offset]? = some node ∧
        (element = ⟨path ++ [position + offset], node⟩ ∨
          element.IsBelow ⟨path ++ [position + offset], node⟩) := by
  cases siblings with
  | nil => simp [belowSiblings]
  | cons first later =>
    rw [belowSiblings, List.mem_cons, List.mem_append, mem_below_iff first,
      mem_belowSiblings_iff later]
    constructor
    · rintro (hfirst | hfirst | ⟨offset, node, hnode, hbelow⟩)
      · exact ⟨0, first, rfl, .inl hfirst⟩
      · exact ⟨0, first, rfl, .inr hfirst⟩
      · refine ⟨offset + 1, node, hnode, ?_⟩
        rw [← Nat.add_assoc, Nat.add_right_comm]
        exact hbelow
    · rintro ⟨offset, node, hnode, hbelow⟩
      cases offset with
      | zero =>
        cases hnode
        exact hbelow.elim .inl fun hbelow ↦ .inr (.inl hbelow)
      | succ offset =>
        rw [← Nat.add_assoc, Nat.add_right_comm] at hbelow
        exact .inr (.inr ⟨offset, node, hnode, hbelow⟩)

end

/-- What is searched for an element is what is strictly below it. -/
theorem mem_descendants_iff {element upper : Element} :
    element ∈ upper.descendants ↔ element.IsBelow upper :=
  mem_below_iff upper.node

/-! ## Order -/

/-- The path of an element among some siblings or below one of them goes on with the position of
that sibling. -/
theorem exists_path_eq_of_mem_belowSiblings {path : List Nat} {position : Nat}
    {siblings : List Node} {element : Element}
    (helement : element ∈ belowSiblings path position siblings) :
    ∃ offset rest, element.path = path ++ (position + offset) :: rest := by
  obtain ⟨offset, node, -, rfl | hbelow⟩ := (mem_belowSiblings_iff siblings).1 helement
  · exact ⟨offset, [], rfl⟩
  · obtain ⟨next, rest, hpath⟩ := hbelow.exists_path_eq
    refine ⟨offset, next :: rest, ?_⟩
    rw [hpath, List.append_assoc]
    rfl

mutual

/-- It meets the elements in the order of their paths. -/
theorem pairwise_path_lt_below (path : List Nat) (node : Node) :
    (below path node).Pairwise fun earlier later ↦ earlier.path < later.path := by
  obtain ⟨name, labels, displayed, faults, children⟩ := node
  rw [below]
  exact pairwise_path_lt_belowSiblings path 0 children

/-- A sibling comes before what is below it, and that before the siblings after it. -/
theorem pairwise_path_lt_belowSiblings (path : List Nat) (position : Nat) (siblings : List Node) :
    (belowSiblings path position siblings).Pairwise
      fun earlier later ↦ earlier.path < later.path := by
  cases siblings with
  | nil =>
    rw [belowSiblings]
    exact .nil
  | cons first later =>
    have hlater (rest : List Nat) : ∀ element ∈ belowSiblings path (position + 1) later,
        path ++ position :: rest < element.path := by
      intro element helement
      obtain ⟨offset, rest', hpath⟩ := exists_path_eq_of_mem_belowSiblings helement
      rw [hpath]
      exact List.append_left_lt (List.cons_lt_cons_iff.2 (.inl (by omega)))
    rw [belowSiblings, List.pairwise_cons, List.pairwise_append]
    refine ⟨?_, pairwise_path_lt_below _ first, pairwise_path_lt_belowSiblings path _ later, ?_⟩
    · intro element helement
      rcases List.mem_append.1 helement with hbelow | helement
      · obtain ⟨next, rest, hpath⟩ := ((mem_below_iff first).1 hbelow).exists_path_eq
        rw [hpath, List.append_assoc]
        exact List.append_left_lt
          (List.cons_lt_cons_iff.2 (.inr ⟨rfl, List.nil_lt_cons next rest⟩))
      · exact hlater [] element helement
    · intro element hbelow element' helement'
      obtain ⟨next, rest, hpath⟩ := ((mem_below_iff first).1 hbelow).exists_path_eq
      rw [hpath]
      simpa using hlater (next :: rest) element' helement'

end

theorem pairwise_path_lt_descendants (element : Element) :
    element.descendants.Pairwise fun earlier later ↦ earlier.path < later.path :=
  pairwise_path_lt_below element.path element.node

theorem nodup_descendants (element : Element) : element.descendants.Nodup := by
  refine (pairwise_path_lt_descendants element).imp fun hlt hsame ↦ ?_
  rw [hsame] at hlt
  exact List.lt_irrefl _ hlt

/-! ## Labels -/

theorem mem_labelled_iff {element upper : Element} {label : Label} :
    element ∈ upper.labelled label ↔ element.IsBelow upper ∧ label ∈ element.node.labels := by
  rw [labelled, List.mem_filter, mem_descendants_iff, hasLabel, List.contains_iff_mem]

theorem nodup_labelled (element : Element) (label : Label) : (element.labelled label).Nodup :=
  (nodup_descendants element).filter _

end BrowserControl.Element
