import BrowserControl.Locating.Page

/-!
# Pages Without Faults

Without faults every question is answered, and nothing changes but the record of questions, so that
a page without faults stays one.  A tree without faults makes such a page.
-/

namespace BrowserControl

open Attempt

/-- Nothing that the element can be asked has a fault. -/
def ElementFaults.quiet : ElementFaults :=
  ⟨none, none, none⟩

namespace Page

def asking (questions : List Question) (page : Page) : Page :=
  { page with asked := questions.reverse ++ page.asked }

@[simp]
theorem asking_asking (questions further : List Question) (page : Page) :
    (page.asking questions).asking further = page.asking (questions ++ further) := by
  simp [asking]

/-! ## Pages without faults -/

def IsQuiet (page : Page) : Prop :=
  ∀ path, page.faults path = .quiet

theorem IsQuiet.asking {page : Page} (hquiet : page.IsQuiet) (questions : List Question) :
    (page.asking questions).IsQuiet :=
  hquiet

end Page

namespace Node

mutual

/-- Neither an element nor anything below it has a fault. -/
def IsFaultless : Node → Prop
  | mk _ _ _ faults children => faults = .quiet ∧ AllFaultless children

def AllFaultless : List Node → Prop
  | [] => True
  | node :: rest => node.IsFaultless ∧ AllFaultless rest

end

theorem AllFaultless.isFaultless_of_mem {nodes : List Node} (hall : AllFaultless nodes) :
    ∀ node ∈ nodes, node.IsFaultless := by
  induction nodes with
  | nil => simp
  | cons first rest ih =>
    rw [AllFaultless] at hall
    intro node hnode
    rcases List.mem_cons.1 hnode with rfl | hnode
    · exact hall.1
    · exact ih hall.2 node hnode

/-- A tree without faults has none at any path. -/
theorem IsFaultless.faultsAt_eq {node : Node} (hfaultless : node.IsFaultless) (path : List Nat) :
    node.faultsAt path = .quiet := by
  induction path generalizing node with
  | nil =>
    cases node
    rw [IsFaultless] at hfaultless
    exact hfaultless.1
  | cons position path ih =>
    rw [faultsAt]
    cases hchild : node.children[position]? with
    | none => rfl
    | some child =>
      cases node
      rw [IsFaultless] at hfaultless
      exact ih (hfaultless.2.isFaultless_of_mem child (List.mem_of_getElem? hchild))

end Node

/-- A tree without faults makes a page without faults. -/
theorem Page.isQuiet_fresh {root : Node} (hfaultless : root.IsFaultless) :
    (Page.fresh root).IsQuiet :=
  hfaultless.faultsAt_eq

namespace Element

variable {page : Page} (hquiet : page.IsQuiet) (element : Element) (label : Label)

include hquiet

/-- Without faults a search finds the labelled elements. -/
theorem perform_findElements_of_quiet :
    (element.findElements label).perform page =
      (.ok (element.labelled label), page.asking [.findElements element label]) := by
  have hask : (Page.ask (.findElements element label)).perform page =
      (.ok (), page.asking [.findElements element label]) := rfl
  have hplan : (page.faults element.path).findElements = none := by
    rw [hquiet element.path]
    rfl
  unfold findElements
  rw [perform_bind, hask]
  simp only [perform_bind]
  rw [perform_strike_of_eq_none]
  · rfl
  · exact hplan

/-- Without faults, an element is found exactly if there is one. -/
theorem perform_findElement_of_quiet :
    (element.findElement label).perform page =
      (match element.labelled label with
        | found :: _ => .ok found
        | [] =>
          .error (.of .noSuchElement ("no such element: " ++ label.strategy ++ "=" ++ label.value)),
        page.asking [.findElement element label]) := by
  have hask : (Page.ask (.findElement element label)).perform page =
      (.ok (), page.asking [.findElement element label]) := rfl
  have hplan : (page.faults element.path).findElement = none := by
    rw [hquiet element.path]
    rfl
  unfold findElement
  rw [perform_bind, hask]
  simp only [perform_bind]
  rw [perform_strike_of_eq_none]
  · cases element.labelled label with
    | nil => rfl
    | cons found _ => rfl
  · exact hplan

end Element

end BrowserControl
