import BrowserControl.Proofs.Locating.Descent
import BrowserControl.Proofs.Locating.Order
import Mathlib.Data.Set.Card

/-!
# Trails

A trail is one way of going down along labels: every element in it is strictly below the one before
it and has the label of its turn.  Where elements with the same label are nested, one element can
end several trails.  Looking for all elements finds each as often as there are trails that end in
it (`encard_trails_eq_count`).

The trails are listed without repetition (`mem_trails_iff`, `nodup_trails`), and what a search
finds are their ends, in the order of the list (`along_eq_map_trails`).
-/

namespace BrowserControl

namespace Element

/-- From an element, every element of a sequence is strictly below the one before it and has the
label of its turn. -/
structure IsTrail (labels : List Label) (root : Element) (sequence : List Element) : Prop where
  descends : (root :: sequence).IsChain fun upper lower ↦ lower.IsBelow upper
  labelled : List.Forall₂ (fun label element ↦ label ∈ element.node.labels) labels sequence

def trails : List Label → Element → List (List Element)
  | [], _ => [[]]
  | label :: rest, root =>
    (root.labelled label).flatMap fun next ↦ (next.trails rest).map (next :: ·)

theorem isTrail_nil_iff {root : Element} {sequence : List Element} :
    root.IsTrail [] sequence ↔ sequence = [] := by
  constructor
  · rintro ⟨-, hlabelled⟩
    exact List.forall₂_nil_left_iff.1 hlabelled
  · rintro rfl
    exact ⟨.singleton root, .nil⟩

theorem isTrail_cons_iff {label : Label} {rest : List Label} {root : Element}
    {sequence : List Element} :
    root.IsTrail (label :: rest) sequence ↔
      ∃ next later, next ∈ root.labelled label ∧ next.IsTrail rest later ∧
        sequence = next :: later := by
  constructor
  · rintro ⟨hdescends, hlabelled⟩
    obtain ⟨next, later, hlabel, hlater, rfl⟩ := List.forall₂_cons_left_iff.1 hlabelled
    obtain ⟨hbelow, hchain⟩ := List.isChain_cons_cons.1 hdescends
    exact ⟨next, later, mem_labelled_iff.2 ⟨hbelow, hlabel⟩, ⟨hchain, hlater⟩, rfl⟩
  · rintro ⟨next, later, hnext, ⟨hchain, hlater⟩, rfl⟩
    obtain ⟨hbelow, hlabel⟩ := mem_labelled_iff.1 hnext
    exact ⟨List.isChain_cons_cons.2 ⟨hbelow, hchain⟩, .cons hlabel hlater⟩

/-- The trails that are listed are the trails there are. -/
theorem mem_trails_iff {labels : List Label} {root : Element} {sequence : List Element} :
    sequence ∈ root.trails labels ↔ root.IsTrail labels sequence := by
  induction labels generalizing root sequence with
  | nil => rw [trails, List.mem_singleton, isTrail_nil_iff]
  | cons label rest ih =>
    rw [trails, isTrail_cons_iff, List.mem_flatMap]
    simp only [List.mem_map, ih]
    constructor
    · rintro ⟨next, hnext, later, hlater, rfl⟩
      exact ⟨next, later, hnext, hlater, rfl⟩
    · rintro ⟨next, later, hnext, hlater, rfl⟩
      exact ⟨next, hnext, later, hlater, rfl⟩

theorem nodup_trails (labels : List Label) (root : Element) : (root.trails labels).Nodup := by
  induction labels generalizing root with
  | nil => exact List.nodup_singleton []
  | cons label rest ih =>
    rw [trails, List.nodup_flatMap]
    constructor
    · intro next _
      exact (ih next).map fun _ _ hsame ↦ List.tail_eq_of_cons_eq hsame
    · -- Trails that go on through different elements are different.
      refine (nodup_labelled root label).imp fun hdifferent sequence hleft hright ↦ ?_
      obtain ⟨later, -, rfl⟩ := List.mem_map.1 hleft
      obtain ⟨later', -, hsame⟩ := List.mem_map.1 hright
      exact hdifferent (List.head_eq_of_cons_eq hsame).symm

/-- The elements that are reached along labels are the ends of the trails. -/
theorem along_eq_map_trails (labels : List Label) (root : Element) :
    root.along labels = (root.trails labels).map fun sequence ↦ sequence.getLastD root := by
  induction labels generalizing root with
  | nil => rfl
  | cons label rest ih =>
    rw [along, trails, List.map_flatMap]
    refine List.flatMap_congr fun next _ ↦ ?_
    rw [ih, List.map_map]
    refine List.map_congr_left fun later _ ↦ ?_
    rw [Function.comp_apply, List.getLastD_cons]

/-- Every element is reached as often as there are trails that end in it. -/
theorem encard_trails_eq_count_along [DecidableEq Element] {labels : List Label}
    (hlabels : labels ≠ []) (root element : Element) :
    {sequence | root.IsTrail labels sequence ∧ sequence.getLast? = some element}.encard =
      (root.along labels).count element := by
  have hend (sequence : List Element) (hsequence : sequence ∈ root.trails labels) :
      sequence.getLast? = some element ↔ sequence.getLastD root = element := by
    have hlength := (mem_trails_iff.1 hsequence).labelled.length_eq
    have hnonempty : sequence ≠ [] := by
      rintro rfl
      exact hlabels (List.eq_nil_of_length_eq_zero hlength)
    rw [List.getLast?_eq_some_getLast hnonempty, List.getLastD_eq_getLast?,
      List.getLast?_eq_some_getLast hnonempty, Option.some_inj, Option.getD_some]
  let ending := (root.trails labels).filter fun sequence ↦ sequence.getLastD root = element
  have hset : {sequence | root.IsTrail labels sequence ∧ sequence.getLast? = some element} =
      (ending.toFinset : Set (List Element)) := by
    ext sequence
    simp only [Set.mem_ofPred_eq, List.coe_toFinset, ending, List.mem_filter, decide_eq_true_eq]
    rw [← mem_trails_iff]
    exact and_congr_right fun hsequence ↦ hend sequence hsequence
  calc
    {sequence | root.IsTrail labels sequence ∧ sequence.getLast? = some element}.encard =
        (ending.toFinset.card : ℕ∞) := by
      rw [hset, Set.encard_coe_eq_coe_finsetCard]
    _ = (ending.length : ℕ∞) := by
      rw [List.toFinset_card_of_nodup ((nodup_trails labels root).filter _)]
    _ = (root.along labels).count element := by
      rw [along_eq_map_trails, List.count, List.countP_map, List.countP_eq_length_filter]
      rfl

end Element

/-- Looking for all elements by a locator without empty chains finds each of them as often as
there are trails along its labels that end in it. -/
theorem Locator.encard_trails_eq_count [DecidableEq Element] {page : Page}
    (hquiet : page.IsQuiet) {locator : Locator} (hsolid : locator.IsSolid)
    (root element : Element) :
    ∃ found, (Page.observe (locator.findElements root) page).1 = .ok found ∧
      {sequence | root.IsTrail locator.labels sequence ∧
          sequence.getLast? = some element}.encard = found.count element := by
  have hblank : Page.IsQuiet { page with asked := [] } := hquiet
  obtain ⟨asked, hperform, -⟩ := gives_findElements locator hsolid root _ hblank
  exact ⟨root.along locator.labels, (Page.observe_eq hperform).1,
    Element.encard_trails_eq_count_along (labels_ne_nil hsolid) root element⟩

/-- The items of lists. -/
def items : Locator :=
  .chain [.plain "tag name" "ul", .chain [.plain "tag name" "li"]]

/-- The item of the inner list is an item of two lists. -/
theorem encard_trails_items :
    items.IsSolid ∧
      ∃ element : Element, element.node.name = "second" ∧
        {sequence | Element.IsTrail items.labels ⟨[], outline⟩ sequence ∧
          sequence.getLast? = some element}.encard = 2 := by
  classical
  have hsolid : items.IsSolid := by
    simp [items, Locator.IsSolid, Locator.AllSolid]
  let second : Node := .mk "second" [⟨"tag name", "li"⟩] true .quiet []
  let inner : Node := .mk "inner" [⟨"tag name", "ul"⟩] true .quiet [second]
  let first : Node := .mk "first" [⟨"tag name", "li"⟩] true .quiet [inner]
  obtain ⟨found, hfound, hencard⟩ := Locator.encard_trails_eq_count
    (Page.isQuiet_fresh isFaultless_outline) hsolid ⟨[], outline⟩ ⟨[0, 0, 0, 0], second⟩
  have hthree : .ok found = (.ok [⟨[0, 0], first⟩, ⟨[0, 0, 0, 0], second⟩,
      ⟨[0, 0, 0, 0], second⟩] : Except Failure (List Element)) := hfound.symm
  rw [Except.ok.inj hthree] at hencard
  refine ⟨hsolid, ⟨[0, 0, 0, 0], second⟩, rfl, hencard.trans ?_⟩
  simp

end BrowserControl
