import BrowserControl.Fault
import BrowserControl.Select.Literal

/-!
# Select Boxes

A select box offers choices, in the order of the document.  Each choice has the text that is shown, the text
as it stands in the document, perhaps a value, an index, and properties of style; it is selected or not, and
enabled or not.  Clicking a choice of a multiple box turns its selection round; clicking one of a single box
selects it and nothing else.  A box is multiple while its attribute `multiple` is there and is not `false`.

A box can be queried for choices, and choices can be asked and clicked.  Each of these may have a fault
planned, and each is recorded, the latest first.  Choices are referred to by their position.
-/

namespace BrowserControl.Select

structure ChoiceFaults where
  text : Plan
  index : Plan
  isSelected : Plan
  isEnabled : Plan
  style : Plan
  click : Plan
  deriving Repr

/-- Where the index of a choice comes from. -/
inductive IndexSource where
  | position
  | stated (index : Option String)
  deriving DecidableEq, Repr

structure Choice where
  name : String
  text : String
  rawText : String
  value : Option String
  index : IndexSource
  selected : Bool
  enabled : Bool
  style : List (String × String)
  faults : ChoiceFaults
  deriving Repr

inductive Query where
  | everyChoice
  | byValue (spaced : Bool) (literal : Literal)
  | byText (literal : Literal)
  | byPart (literal : Literal)
  deriving DecidableEq, Repr

/-- Something that was asked of a select box or of one of its choices.  A click is recorded together with what
the choice was like at the time. -/
inductive BoxCall where
  | readMultiple
  | find (query : Query)
  | text (position : Nat)
  | index (position : Nat)
  | isSelected (position : Nat)
  | isEnabled (position : Nat)
  | style (position : Nat) (property : String)
  | click (position : Nat) (selected enabled : Bool)
  deriving DecidableEq, Repr

structure BoxFaults where
  readMultiple : Plan
  find : Plan
  deriving Repr

structure Box where
  tag : String
  multiple : Option String
  faults : BoxFaults
  choices : List Choice
  calls : List BoxCall
  deriving Repr

/-! ## Queries -/

namespace Query

def strategy : Query → String
  | everyChoice => "tag name"
  | byValue _ _ => "css selector"
  | byText _ | byPart _ => "xpath"

def selector : Query → String
  | everyChoice => "option"
  | byValue spaced literal =>
    "option[value =" ++ (if spaced then " " else "") ++ literal.write ++ "]"
  | byText literal => ".//option[normalize-space(.) = " ++ literal.write ++ "]"
  | byPart literal => ".//option[contains(.," ++ literal.write ++ ")]"

/-- Whether a choice answers a query: by its value, by its text in the document with normal spacing, or by a
part of that text. -/
def matchesChoice (choice : Choice) : Query → Bool
  | everyChoice => true
  | byValue _ literal => choice.value.map String.toList = some literal.meaning
  | byText literal => Text.normalSpacing choice.rawText.toList = literal.meaning
  | byPart literal => Text.occursIn literal.meaning choice.rawText.toList

/-- Whether a query can be understood; where values are compared, nothing can be concatenated. -/
def isUnderstood : Query → Bool
  | byValue _ (.concatenation _) => false
  | _ => true

end Query

namespace Box

def record (call : BoxCall) : Attempt Box Unit :=
  modify fun box ↦ { box with calls := call :: box.calls }

/-- The positions of the choices that answer a query, in the order of the document. -/
def positions (box : Box) (query : Query) : List Nat :=
  (List.range box.choices.length).filter fun position ↦
    box.choices[position]?.any query.matchesChoice

/-- The attribute `multiple`. -/
def readMultiple : Attempt Box (Option String) := do
  record .readMultiple
  strike (fun box ↦ box.faults.readMultiple) fun plan box ↦
    { box with faults := { box.faults with readMultiple := plan } }
  return (← get).multiple

def find (query : Query) : Attempt Box (List Nat) := do
  record (.find query)
  strike (fun box ↦ box.faults.find) fun plan box ↦
    { box with faults := { box.faults with find := plan } }
  if query.isUnderstood then return (← get).positions query
  else throw (.of .invalidSelector ("invalid selector: " ++ query.selector))

/-! ## Asking choices -/

def changeChoice (position : Nat) (change : Choice → Choice) (box : Box) : Box :=
  { box with choices := box.choices.modify position change }

/-- Put a question to the choice at a position. -/
def ask {α : Type} (position : Nat) (call : Nat → BoxCall) (plan : ChoiceFaults → Plan)
    (replace : Plan → ChoiceFaults → ChoiceFaults) (answer : Choice → α) (absent : α) :
    Attempt Box α := do
  record (call position)
  strike (fun box ↦ box.choices[position]?.bind fun choice ↦ plan choice.faults) fun plan ↦
    changeChoice position fun choice ↦ { choice with faults := replace plan choice.faults }
  return ((← get).choices[position]?.map answer).getD absent

def text (position : Nat) : Attempt Box String :=
  ask position .text ChoiceFaults.text (fun plan faults ↦ { faults with text := plan }) Choice.text ""

/-- The index of a choice, which is its position unless it states another one or none. -/
def index (position : Nat) : Attempt Box (Option String) :=
  ask position .index ChoiceFaults.index (fun plan faults ↦ { faults with index := plan })
    (fun choice ↦
      match choice.index with
      | .position => some (toString position)
      | .stated index => index)
    none

def isSelected (position : Nat) : Attempt Box Bool :=
  ask position .isSelected ChoiceFaults.isSelected
    (fun plan faults ↦ { faults with isSelected := plan }) Choice.selected false

def isEnabled (position : Nat) : Attempt Box Bool :=
  ask position .isEnabled ChoiceFaults.isEnabled
    (fun plan faults ↦ { faults with isEnabled := plan }) Choice.enabled false

/-- The properties of style that decide on visibility, and their values where nothing is said. -/
def standardStyle : List (String × String) := [
  ("visibility", "visible"),
  ("display", "block"),
  ("opacity", "1")]

def style (position : Nat) (property : String) : Attempt Box String :=
  ask position (.style · property) ChoiceFaults.style
    (fun plan faults ↦ { faults with style := plan })
    (fun choice ↦
      (choice.style.lookup property).getD ((standardStyle.lookup property).getD ""))
    ""

/-- Whether several choices of a box can be selected at once. -/
def isMultiple (box : Box) : Bool :=
  box.multiple.any (· ≠ "false")

/-- The box after a click on the choice at a position. -/
def clicked (position : Nat) (box : Box) : Box :=
  if box.isMultiple then
    box.changeChoice position fun choice ↦ { choice with selected := !choice.selected }
  else
    { box with
      choices := box.choices.mapIdx fun other choice ↦ { choice with selected := other == position } }

def click (position : Nat) : Attempt Box Unit := do
  let choice := (← get).choices[position]?
  let call (position : Nat) : BoxCall :=
    .click position (choice.any Choice.selected) (choice.any Choice.enabled)
  ask position call ChoiceFaults.click (fun plan faults ↦ { faults with click := plan })
    (fun _ ↦ ()) ()
  modify (clicked position)

/-! ## Views -/

def nameAt (box : Box) (position : Nat) : String :=
  (box.choices[position]?.map Choice.name).getD ""

def selectedPositions (box : Box) : List Nat :=
  (List.range box.choices.length).filter fun position ↦
    box.choices[position]?.any Choice.selected

/-- The outcome of an attempt, the calls it makes in their order, and the box it leaves behind. -/
def observe {α : Type} (attempt : Attempt Box α) (box : Box) :
    Except Failure α × List BoxCall × Box :=
  let (outcome, later) := attempt.perform { box with calls := [] }
  (outcome, later.calls.reverse, later)

end Box

end BrowserControl.Select
