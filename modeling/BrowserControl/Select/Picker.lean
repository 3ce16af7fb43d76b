import BrowserControl.Decimal.Numeral
import BrowserControl.Select.Box

/-!
# Picking Choices

A picker selects and deselects choices of a select box by clicking them.  When it is made it looks once whether
the box is multiple, and it goes by that for good: on a single box it is content with the first choice that
fits, and it refuses to deselect.  Choices that are as wanted already are not clicked.

Choices are picked by value, by index, or by visible text.  If no choice has the text, but the text has a space
in it, the choices that contain its longest piece are compared with the text as it is.
-/

namespace BrowserControl.Select

/-- Picks choices of a box; `multiple` is what was found when the picker was made. -/
structure Picker where
  multiple : Bool
  deriving DecidableEq, Repr

namespace Picker

/-- A picker for a box, which has to have the tag of one. -/
def make : Attempt Box Picker := do
  let tag := (← get).tag
  if tag.toLower ≠ "select" then
    throw (.of .unexpectedTagName ("Select only works on <select> elements, not on " ++ tag))
  else
    let multiple ← Box.readMultiple
    pure ⟨multiple.any fun value ↦ value ≠ "" ∧ value ≠ "false"⟩

/-! ## Reading -/

def choices : Attempt Box (List Nat) :=
  Box.find .everyChoice

def selectedOf : List Nat → Attempt Box (List Nat)
  | [] => pure []
  | position :: rest => do
    let selected ← Box.isSelected position
    let others ← selectedOf rest
    pure (if selected then position :: others else others)

def selectedChoices : Attempt Box (List Nat) := do
  selectedOf (← choices)

def firstSelectedOf : List Nat → Attempt Box Nat
  | [] => throw (.of .noSuchElement "No options are selected")
  | position :: rest => do
    if ← Box.isSelected position then pure position else firstSelectedOf rest

def firstSelected : Attempt Box Nat := do
  firstSelectedOf (← choices)

/-! ## Single choices -/

/-- The properties of style that are looked at, in this order. -/
def visibilityProperties : List String :=
  ["visibility", "display", "opacity"]

def invisibleValues : List String :=
  ["hidden", "none", "0", "0.0"]

/-- Whether none of some properties makes a choice invisible. -/
def isVisibleBy (position : Nat) : List String → Attempt Box Bool
  | [] => pure true
  | property :: rest => do
    if (← Box.style position property) ∈ invisibleValues then pure false
    else isVisibleBy position rest

/-- Fail unless a choice that was found by a text is visible. -/
def requireVisible (text : String) (position : Nat) : Attempt Box Unit := do
  if ← isVisibleBy position visibilityProperties then pure ()
  else throw (.of .noSuchElement ("Invisible option with text: " ++ text))

def setSelected (position : Nat) : Attempt Box Unit := do
  if ← Box.isSelected position then pure ()
  else if ← Box.isEnabled position then Box.click position
  else throw (.of .unsupported "You may not select a disabled option")

def unsetSelected (position : Nat) : Attempt Box Unit := do
  if ← Box.isSelected position then Box.click position else pure ()

/-! ## Selecting -/

/-- Do something with choices: with all of them if the box is multiple, else with the first. -/
def eachPicked (picker : Picker) (act : Nat → Attempt Box Unit) : List Nat → Attempt Box Unit
  | [] => pure ()
  | position :: rest => do
    act position
    if picker.multiple then eachPicked picker act rest else pure ()

def selectByValue (picker : Picker) (value : String) : Attempt Box Unit := do
  match ← Box.find (.byValue false (Literal.ofText value.toList)) with
  | [] => throw (.of .noSuchElement ("Cannot locate option with value: " ++ value))
  | found => eachPicked picker setSelected found

def writeIndex (index : Int) : Attempt Box String :=
  match Decimal.writeInteger? index with
  | some decimal => pure decimal
  | none => throw (.of .invalidValue Decimal.tooLongToWrite)

def noSuchIndex (index : Int) : Attempt Box Unit := do
  throw (.of .noSuchElement ("Could not locate element with index " ++ (← writeIndex index)))

/-- Select the first of some choices that has an index. -/
def selectIndexOf (index : Int) (decimal : String) : List Nat → Attempt Box Unit
  | [] => noSuchIndex index
  | position :: rest => do
    if (← Box.index position) = some decimal then setSelected position
    else selectIndexOf index decimal rest

def selectByIndex (index : Int) : Attempt Box Unit := do
  let decimal ← writeIndex index
  selectIndexOf index decimal (← choices)

/-- Have a choice selected that was found by a text, provided it is visible. -/
def selectVisible (text : String) (position : Nat) : Attempt Box Unit := do
  requireVisible text position
  setSelected position

def noSuchText (text : String) : Attempt Box Unit :=
  throw (.of .noSuchElement ("Could not locate element with visible text: " ++ text))

/-- Select those of some choices whose shown text is exactly the given one; says whether there are any. -/
def selectExact (picker : Picker) (text : String) : List Nat → Attempt Box Bool
  | [] => pure false
  | position :: rest => do
    if (← Box.text position) = text then
      selectVisible text position
      if picker.multiple then (fun _ ↦ true) <$> selectExact picker text rest else pure true
    else selectExact picker text rest

/-- The choices that may have a text with spaces in it: those that contain its longest piece. -/
def candidates (text : String) : Attempt Box (List Nat) :=
  match Text.longestPiece text.toList with
  | [] => choices
  | piece => Box.find (.byPart (Literal.ofText piece))

def selectByText (picker : Picker) (text : String) : Attempt Box Unit := do
  match ← Box.find (.byText (Literal.ofText text.toList)) with
  | [] =>
    if ' ' ∈ text.toList then
      if ← selectExact picker text (← candidates text) then pure () else noSuchText text
    else noSuchText text
  | found => eachPicked picker (selectVisible text) found

/-! ## Deselecting -/

/-- Fail unless the box was multiple when the picker was made. -/
def requireMultiple (picker : Picker) (action : String) : Attempt Box Unit :=
  if picker.multiple then pure ()
  else throw (.of .unsupported ("You may only " ++ action ++ " of a multi-select"))

/-- Do something with choices, one after the other. -/
def forAll (act : Nat → Attempt Box Unit) : List Nat → Attempt Box Unit
  | [] => pure ()
  | position :: rest => do
    act position
    forAll act rest

def deselectAll (picker : Picker) : Attempt Box Unit := do
  picker.requireMultiple "deselect all options"
  forAll unsetSelected (← choices)

def deselectByValue (picker : Picker) (value : String) : Attempt Box Unit := do
  picker.requireMultiple "deselect options"
  match ← Box.find (.byValue true (Literal.ofText value.toList)) with
  | [] => throw (.of .noSuchElement ("Could not locate element with value: " ++ value))
  | found => forAll unsetSelected found

def deselectIndexOf (index : Int) : List Nat → Attempt Box Unit
  | [] => noSuchIndex index
  | position :: rest => do
    let found ← Box.index position
    if found = some (← writeIndex index) then unsetSelected position
    else deselectIndexOf index rest

def deselectByIndex (picker : Picker) (index : Int) : Attempt Box Unit := do
  picker.requireMultiple "deselect options"
  deselectIndexOf index (← choices)

def deselectVisible (text : String) (position : Nat) : Attempt Box Unit := do
  requireVisible text position
  unsetSelected position

def deselectByText (picker : Picker) (text : String) : Attempt Box Unit := do
  picker.requireMultiple "deselect options"
  match ← Box.find (.byText (Literal.ofText text.toList)) with
  | [] => noSuchText text
  | found => forAll (deselectVisible text) found

end Picker

end BrowserControl.Select
