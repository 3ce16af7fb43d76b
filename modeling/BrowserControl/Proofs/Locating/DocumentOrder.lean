import BrowserControl.Proofs.Locating.Descent
import BrowserControl.Proofs.Locating.Order
import Mathlib.Data.List.Induction
import Mathlib.Data.List.Sort

/-!
# Searches in Document Order

A search for all elements collects what it finds below one element after the other, so its result
is in document order only if the parts of the page that it looks through come one after the other
too.  They do if no two of them are nested (`Element.IsBelow.path_lt_of_apart`): what is below two
elements, neither of which is below the other, is in the order of these two.  So a chain of plain
locators finds elements in document order, and none twice, if the elements that are found on the
way are never nested (`Locator.pairwise_path_lt_findElements`).  Where they are, the same element may
be found several times.
-/

namespace BrowserControl

open scoped List

/-- What comes after texts of which one is before the other, and not the beginning of the other, does
not matter for their order. -/
theorem append_lt_append_of_not_isPrefix {earlier later : List Nat} (hlt : earlier < later)
    (hstarts : ¬earlier <+: later) (rest rest' : List Nat) : earlier ++ rest < later ++ rest' := by
  induction earlier generalizing later with
  | nil => exact absurd List.nil_prefix hstarts
  | cons head tail ih =>
    cases later with
    | nil => exact absurd hlt (List.not_lt_nil _)
    | cons head' tail' =>
      rw [List.cons_append, List.cons_append, List.cons_lt_cons_iff]
      rcases List.cons_lt_cons_iff.1 hlt with hhead | ⟨rfl, htail⟩
      · exact .inl hhead
      · refine .inr ⟨rfl, ih htail fun hrest ↦ hstarts ?_⟩
        exact (List.prefix_append_right_inj [head]).2 hrest

namespace Element

/-! ## Paths of elements -/

/-- Children of one element with the same path are the same. -/
theorem IsChildOf.eq_of_path_eq {child child' parent : Element} (hchild : child.IsChildOf parent)
    (hchild' : child'.IsChildOf parent) (hpath : child.path = child'.path) : child = child' := by
  obtain ⟨path, node⟩ := child
  obtain ⟨path', node'⟩ := child'
  obtain ⟨position, hnode, rfl⟩ := hchild
  obtain ⟨position', hnode', rfl⟩ := hchild'
  obtain rfl : position = position' := by simpa using hpath
  obtain rfl : node = node' := Option.some.inj (hnode.symm.trans hnode')
  rfl

/-- The path of a child or of something below it goes on from the path of the child. -/
theorem isPrefix_path_of_eq_or_isBelow {child element : Element}
    (helement : element = child ∨ element.IsBelow child) : child.path <+: element.path := by
  rcases helement with rfl | hbelow
  · exact List.prefix_rfl
  · obtain ⟨position, rest, hpath⟩ := hbelow.exists_path_eq
    exact ⟨position :: rest, hpath.symm⟩

/-- Of two children of an element, below which paths lead of which one goes on from the other, there is
only one. -/
theorem IsChildOf.eq_of_isPrefix {child child' parent : Element} {path path' : List Nat}
    (hchild : child.IsChildOf parent) (hchild' : child'.IsChildOf parent)
    (hpath : child.path <+: path) (hpath' : child'.path <+: path') (hstarts : path <+: path') :
    child = child' := by
  refine hchild.eq_of_path_eq hchild' ?_
  have hlength : child.path.length = child'.path.length := by
    obtain ⟨position, -, hchildPath⟩ := hchild
    obtain ⟨position', -, hchildPath'⟩ := hchild'
    rw [hchildPath, hchildPath', List.length_append, List.length_append]
    rfl
  exact (List.prefix_of_prefix_length_le (hpath.trans hstarts) hpath' hlength.le).eq_of_length
    hlength

/-- Of two elements below a third one, whose paths lead from one to the other, the one is below the
other. -/
theorem IsBelow.eq_or_isBelow_of_isPrefix {root upper lower : Element} (hupper : upper.IsBelow root)
    (hlower : lower.IsBelow root) (hstarts : upper.path <+: lower.path) :
    lower = upper ∨ lower.IsBelow upper := by
  unfold IsBelow at hupper
  induction hupper using Relation.TransGen.head_induction_on with
  | single hchild =>
    obtain ⟨child', hchild', hlower⟩ := isBelow_iff_exists_child.1 hlower
    rwa [hchild.eq_of_isPrefix hchild' List.prefix_rfl (isPrefix_path_of_eq_or_isBelow hlower)
      hstarts]
  | head hchild hupper ih =>
    obtain ⟨child', hchild', hlower⟩ := isBelow_iff_exists_child.1 hlower
    obtain rfl := hchild.eq_of_isPrefix hchild' (isPrefix_path_of_eq_or_isBelow (.inr hupper))
      (isPrefix_path_of_eq_or_isBelow hlower) hstarts
    rcases hlower with rfl | hlower
    · -- The path of what is below an element is longer than the path of the element.
      obtain ⟨position, rest, hpath⟩ := IsBelow.exists_path_eq hupper
      have hlength := hstarts.length_le
      rw [hpath, List.length_append, List.length_cons] at hlength
      omega
    · exact ih hlower

theorem ne_of_path_lt {earlier later : Element} (hlt : earlier.path < later.path) :
    earlier ≠ later := by
  rintro rfl
  exact List.lt_irrefl _ hlt

/-! ## Elements that are not nested -/

/-- No element of a list is strictly below another one of it. -/
def Apart (elements : List Element) : Prop :=
  ∀ upper ∈ elements, ∀ lower ∈ elements, ¬lower.IsBelow upper

/-- Elements on the same level are not nested. -/
theorem apart_of_all_length_eq {elements : List Element} {level : Nat}
    (hlevel : elements.all (fun element ↦ element.path.length = level) = true) : Apart elements := by
  simp only [List.all_eq_true, decide_eq_true_eq] at hlevel
  intro upper hupper lower hlower hbelow
  obtain ⟨position, rest, hpath⟩ := hbelow.exists_path_eq
  have hlength := congrArg List.length hpath
  rw [List.length_append, hlevel upper hupper, hlevel lower hlower, List.length_cons] at hlength
  omega

/-- What is below two elements, neither of which is below the other, is in the order of the two. -/
theorem IsBelow.path_lt_of_apart {root earlier later element element' : Element}
    (hearlier : earlier.IsBelow root) (hlater : later.IsBelow root)
    (hlt : earlier.path < later.path) (hapart : ¬later.IsBelow earlier)
    (helement : element.IsBelow earlier) (helement' : element'.IsBelow later) :
    element.path < element'.path := by
  have hnoPrefix : ¬earlier.path <+: later.path := by
    intro hstarts
    rcases hearlier.eq_or_isBelow_of_isPrefix hlater hstarts with rfl | hbelow
    · exact List.lt_irrefl _ hlt
    · exact hapart hbelow
  obtain ⟨position, rest, hpath⟩ := helement.exists_path_eq
  obtain ⟨position', rest', hpath'⟩ := helement'.exists_path_eq
  rw [hpath, hpath']
  exact append_lt_append_of_not_isPrefix hlt hnoPrefix _ _

/-- One step of a search keeps the order of the document if it starts from elements that are not
nested. -/
theorem pairwise_path_lt_flatMap_labelled {root : Element} {elements : List Element}
    (hbelow : ∀ element ∈ elements, element.IsBelow root) (hapart : Apart elements)
    (horder : elements.Pairwise fun earlier later ↦ earlier.path < later.path) (label : Label) :
    (elements.flatMap (labelled · label)).Pairwise fun earlier later ↦ earlier.path < later.path := by
  rw [List.pairwise_flatMap]
  constructor
  · exact fun element _ ↦ (pairwise_path_lt_descendants element).filter _
  · apply horder.imp_of_mem
    intro earlier later hearlier hlater hlt element helement element' helement'
    exact (hbelow earlier hearlier).path_lt_of_apart (hbelow later hlater) hlt
      (hapart earlier hearlier later hlater) (mem_labelled_iff.1 helement).1
      (mem_labelled_iff.1 helement').1

theorem isBelow_of_mem_along {labels : List Label} (hlabels : labels ≠ []) {root element : Element}
    (helement : element ∈ root.along labels) : element.IsBelow root := by
  induction labels generalizing root with
  | nil => exact absurd rfl hlabels
  | cons label rest ih =>
    rw [along, List.mem_flatMap] at helement
    obtain ⟨next, hnext, helement⟩ := helement
    have hbelow := (mem_labelled_iff.1 hnext).1
    cases rest with
    | nil =>
      rw [along, List.mem_singleton] at helement
      rwa [helement]
    | cons other rest => exact Relation.TransGen.trans hbelow (ih (by simp) helement)

/-- A descent keeps the order of the document if the elements that are reached on the way are not
nested. -/
theorem pairwise_path_lt_along {labels : List Label} {root : Element} (hlabels : labels ≠ [])
    (hapart : ∀ steps, 0 < steps → steps < labels.length → Apart (root.along (labels.take steps))) :
    (root.along labels).Pairwise fun earlier later ↦ earlier.path < later.path := by
  induction labels using List.reverseRecOn with
  | nil => exact absurd rfl hlabels
  | append_singleton labels label ih =>
    have hstep : along [label] = (labelled · label) := by
      funext element
      simp [along]
    rw [along_append, hstep]
    by_cases hfirst : labels = []
    · subst hfirst
      rw [along, List.flatMap_singleton]
      exact (pairwise_path_lt_descendants root).filter _
    · have hbelow : ∀ element ∈ root.along labels, element.IsBelow root :=
        fun _ ↦ isBelow_of_mem_along hfirst
      have hlast : Apart (root.along labels) := by
        have htake := hapart labels.length (List.length_pos_iff.2 hfirst) (by simp)
        rwa [List.take_left' rfl] at htake
      have horder : (root.along labels).Pairwise fun earlier later ↦ earlier.path < later.path := by
        apply ih hfirst
        intro steps hpositive hsteps
        have hearlier := hapart steps hpositive (by simp; omega)
        rwa [List.take_append_of_le_length hsteps.le] at hearlier
      exact pairwise_path_lt_flatMap_labelled hbelow hlast horder label

end Element

namespace Locator

open Element

/-- Without faults a chain of plain locators finds what is reached along their labels. -/
theorem findElements_eq_along {page : Page} (hquiet : page.IsQuiet) {labels : List Label}
    (hlabels : labels ≠ []) (root : Element) :
    (Page.observe ((chain (labels.map Label.locator)).findElements root) page).1 =
      .ok (root.along labels) := by
  have hblank : Page.IsQuiet { page with asked := [] } := hquiet
  have hsolid : (chain (labels.map Label.locator)).IsSolid :=
    ⟨by simpa using hlabels, allSolid_map_locator labels⟩
  obtain ⟨asked, hperform, -⟩ := gives_findElements _ hsolid root _ hblank
  rw [(Page.observe_eq hperform).1, Locator.labels, memberLabels_map_locator]

/-- If none of the elements that a chain of plain locators has found after any of its steps but the
last is strictly below another one of them, then it finds elements in the order of the document, and
none twice: what is found is a part of everything below the element that the search starts from. -/
theorem pairwise_path_lt_findElements {page : Page} (hquiet : page.IsQuiet) (labels : List Label)
    (root : Element)
    (hapart : ∀ steps found, 0 < steps → steps < labels.length →
      (Page.observe ((chain ((labels.take steps).map Label.locator)).findElements root) page).1 =
        .ok found → Apart found) :
    ∃ found, (Page.observe ((chain (labels.map Label.locator)).findElements root) page).1 =
        .ok found ∧
      found.Pairwise (fun earlier later ↦ earlier.path < later.path) ∧
      found <+ root.descendants ∧ found.Nodup := by
  by_cases hlabels : labels = []
  · subst hlabels
    exact ⟨[], rfl, .nil, List.nil_sublist _, List.nodup_nil⟩
  · refine ⟨_, findElements_eq_along hquiet hlabels root, ?_⟩
    have horder : (root.along labels).Pairwise fun earlier later ↦ earlier.path < later.path := by
      refine pairwise_path_lt_along hlabels fun steps hpositive hsteps ↦ ?_
      refine hapart steps _ hpositive hsteps (findElements_eq_along hquiet ?_ root)
      rw [Ne, List.take_eq_nil_iff]
      exact fun hnone ↦ hnone.elim hpositive.ne' hlabels
    have hnodup : (root.along labels).Nodup := horder.imp ne_of_path_lt
    have hsubset : root.along labels ⊆ root.descendants := fun element helement ↦
      mem_descendants_iff.2 (isBelow_of_mem_along hlabels helement)
    have hantisymm : Std.Antisymm fun earlier later : Element ↦ earlier.path < later.path :=
      ⟨fun _ _ hlt hgt ↦ absurd hgt (List.lt_asymm hlt)⟩
    exact ⟨horder, List.sublist_of_subperm_of_pairwise (List.subperm_of_subset hnodup hsubset) horder
      (pairwise_path_lt_descendants root), hnodup⟩

end Locator

/-- Two lists side by side, with links in some of their items. -/
def twoLists : Node :=
  let node (name tag : String) (children : List Node) : Node :=
    .mk name [⟨"tag name", tag⟩] true .quiet children
  node "page" "body"
    [node "left" "ul" [node "one" "li" [node "first" "a" [], node "second" "a" []], node "two" "li" []],
      node "right" "ul" [node "three" "li" [node "third" "a" []]]]

/-- The labels of lists, of their items and of the links in these. -/
def linkLabels : List Label :=
  [⟨"tag name", "ul"⟩, ⟨"tag name", "li"⟩, ⟨"tag name", "a"⟩]

/-- Neither the lists nor their items are nested. -/
theorem findElements_twoLists :
    ∃ found, (Page.observe ((Locator.chain
        [.plain "tag name" "ul", .plain "tag name" "li", .plain "tag name" "a"]).findElements
          ⟨[], twoLists⟩) (Page.fresh twoLists)).1 = .ok found ∧
      found.map (fun element ↦ element.node.name) = ["first", "second", "third"] ∧
      found.Pairwise (fun earlier later ↦ earlier.path < later.path) := by
  have hquiet : (Page.fresh twoLists).IsQuiet :=
    Page.isQuiet_fresh (by simp [twoLists, Node.IsFaultless, Node.AllFaultless])
  have hlevel (steps : Nat) (hsteps : steps = 1 ∨ steps = 2) :
      (Page.observe ((Locator.chain ((linkLabels.take steps).map Label.locator)).findElements
        ⟨[], twoLists⟩) (Page.fresh twoLists)).1.map
          (List.all · fun element ↦ element.path.length = steps) = .ok true := by
    obtain rfl | rfl := hsteps
    · rfl
    · rfl
  have hapart (steps : Nat) (found : List Element) (hpositive : 0 < steps)
      (hsteps : steps < linkLabels.length)
      (hfound : (Page.observe ((Locator.chain ((linkLabels.take steps).map
        Label.locator)).findElements ⟨[], twoLists⟩) (Page.fresh twoLists)).1 = .ok found) :
      Element.Apart found := by
    have hlength : linkLabels.length = 3 := rfl
    have hall := hlevel steps (by omega)
    rw [hfound] at hall
    exact Element.apart_of_all_length_eq (Except.ok.inj hall)
  obtain ⟨found, hfound, horder, -⟩ :=
    Locator.pairwise_path_lt_findElements hquiet linkLabels ⟨[], twoLists⟩ hapart
  refine ⟨found, hfound, ?_, horder⟩
  cases hfound
  rfl

end BrowserControl
