import BrowserControl.Fault

/-!
# Pages

A page is a tree of elements.  Every element carries labels, the pairs of a strategy and a value by which it
can be found, and the faults planned for the three things it can be asked: for the first element below it
with a label, for all of them, and whether it is displayed.  Elements are found strictly below the
element that is asked, in document order: an element comes before what is below it, and what is below it
comes before its later siblings.

The tree itself never changes.  What changes is how much of the planned faults remains and the record
of the questions asked, kept with the latest first.
-/

namespace BrowserControl

/-- A strategy and a value by which an element can be found. -/
structure Label where
  strategy : String
  value : String
  deriving DecidableEq, Repr

structure ElementFaults where
  findElement : Plan
  findElements : Plan
  isDisplayed : Plan
  deriving Repr

/-- An element of a page with everything below it. -/
inductive Node where
  | mk (name : String) (labels : List Label) (displayed : Bool) (faults : ElementFaults)
    (children : List Node)
  deriving Repr

namespace Node

def name : Node → String
  | mk name _ _ _ _ => name

def labels : Node → List Label
  | mk _ labels _ _ _ => labels

def displayed : Node → Bool
  | mk _ _ displayed _ _ => displayed

def faults : Node → ElementFaults
  | mk _ _ _ faults _ => faults

def children : Node → List Node
  | mk _ _ _ _ children => children

/-- The faults planned for the element at a path, which gives the position among its siblings on every
level. -/
def faultsAt : List Nat → Node → ElementFaults
  | [], node => node.faults
  | position :: path, node =>
    match node.children[position]? with
    | none => ⟨none, none, none⟩
    | some child => child.faultsAt path

end Node

/-- An element together with its path from the top of the page, which tells equal elements apart. -/
structure Element where
  path : List Nat
  node : Node
  deriving Repr

namespace Element

mutual

/-- The elements strictly below a node, in document order. -/
def below (path : List Nat) : Node → List Element
  | .mk _ _ _ _ children => belowSiblings path 0 children

def belowSiblings (path : List Nat) (position : Nat) : List Node → List Element
  | [] => []
  | node :: later =>
    ⟨path ++ [position], node⟩ ::
      (below (path ++ [position]) node ++ belowSiblings path (position + 1) later)

end

/-- The elements strictly below an element, in document order. -/
def descendants (element : Element) : List Element :=
  below element.path element.node

def hasLabel (label : Label) (element : Element) : Bool :=
  element.node.labels.contains label

/-- The elements strictly below an element that have a label, in document order. -/
def labelled (element : Element) (label : Label) : List Element :=
  element.descendants.filter (hasLabel label)

end Element

inductive Question where
  | findElement (element : Element) (label : Label)
  | findElements (element : Element) (label : Label)
  | isDisplayed (element : Element)
  deriving Repr

/-- What changes while a page is searched. -/
structure Page where
  faults : List Nat → ElementFaults
  asked : List Question

namespace Page

def fresh (root : Node) : Page :=
  ⟨fun path ↦ root.faultsAt path, []⟩

def ask (question : Question) : Attempt Page Unit :=
  modify fun page ↦ { page with asked := question :: page.asked }

def replaceFaults (path : List Nat) (change : ElementFaults → ElementFaults) (page : Page) : Page :=
  { page with
    faults := fun other ↦ if other = path then change (page.faults path) else page.faults other }

/-- The outcome of an attempt, the questions it asks in their order, and the page it leaves behind. -/
def observe {α : Type} (attempt : Attempt Page α) (page : Page) :
    Except Failure α × List Question × Page :=
  let (outcome, later) := attempt.perform { page with asked := [] }
  (outcome, later.asked.reverse, later)

end Page

namespace Element

def findElements (element : Element) (label : Label) : Attempt Page (List Element) := do
  Page.ask (.findElements element label)
  strike (fun page ↦ (page.faults element.path).findElements) fun plan ↦
    Page.replaceFaults element.path fun faults ↦ { faults with findElements := plan }
  pure (element.labelled label)

/-- Ask for the first element below an element with a label. -/
def findElement (element : Element) (label : Label) : Attempt Page Element := do
  Page.ask (.findElement element label)
  strike (fun page ↦ (page.faults element.path).findElement) fun plan ↦
    Page.replaceFaults element.path fun faults ↦ { faults with findElement := plan }
  match element.labelled label with
  | found :: _ => pure found
  | [] =>
    throw (.of .noSuchElement ("no such element: " ++ label.strategy ++ "=" ++ label.value))

def isDisplayed (element : Element) : Attempt Page Bool := do
  Page.ask (.isDisplayed element)
  strike (fun page ↦ (page.faults element.path).isDisplayed) fun plan ↦
    Page.replaceFaults element.path fun faults ↦ { faults with isDisplayed := plan }
  pure element.node.displayed

end Element

end BrowserControl
