import BrowserControl.Select.Picker

/-!
# Select Controls

What callers use to read and change the selection of a select box.  A control goes through a picker and reports
in its own words: no choice fits, nothing is selected, or nothing can be deselected since the box is
single.  The last is decided anew for every call, by what the box says at that time.  All other failures come
out as they are.
-/

namespace BrowserControl.Select

/-- Reads and changes the selection of a box. -/
structure Control where
  picker : Picker
  deriving DecidableEq, Repr

namespace Control

def make : Attempt Box Control :=
  Control.mk <$> Picker.make

/-- Report that no choice fits a criterion if some element was not found. -/
def reportMissing (criterion : String) (attempt : Attempt Box Unit) : Attempt Box Unit :=
  Attempt.recover attempt .noSuchElement fun failure ↦
    throw (failure.reportedAs .optionNotFound ("Cannot locate option with " ++ criterion))

/-- Report in the same way for an index. -/
def reportMissingIndex (index : Int) (attempt : Attempt Box Unit) : Attempt Box Unit :=
  Attempt.recover attempt .noSuchElement fun failure ↦ do
    let decimal ← Picker.writeIndex index
    throw (failure.reportedAs .optionNotFound ("Cannot locate option with index: " ++ decimal))

/-! ## Reading -/

/-- Whether several choices can be selected at once. -/
def isMultiple : Attempt Box Bool := do
  let multiple ← Box.readMultiple
  pure (multiple.any (· ≠ "false"))

def choices : Attempt Box (List Nat) :=
  Picker.choices

def selectedChoices : Attempt Box (List Nat) :=
  Picker.selectedChoices

def firstSelected : Attempt Box Nat :=
  Attempt.recover Picker.firstSelected .noSuchElement fun failure ↦
    throw (failure.reportedAs .noSelection "No options are selected")

/-! ## Selecting -/

def selectByText (control : Control) (text : String) : Attempt Box Unit :=
  reportMissing ("visible text: " ++ text) (control.picker.selectByText text)

def selectByIndex (index : Int) : Attempt Box Unit :=
  reportMissingIndex index (Picker.selectByIndex index)

def selectByValue (control : Control) (value : String) : Attempt Box Unit :=
  reportMissing ("value: " ++ value) (control.picker.selectByValue value)

/-! ## Deselecting -/

/-- Fail unless several choices can be selected at once. -/
def requireMultiple (action : String) : Attempt Box Unit := do
  if ← isMultiple then pure ()
  else throw (.of .notMultiple ("You may only " ++ action ++ " of a multi-select"))

def deselectAll (control : Control) : Attempt Box Unit := do
  requireMultiple "deselect all options"
  control.picker.deselectAll

def deselectByValue (control : Control) (value : String) : Attempt Box Unit := do
  requireMultiple "deselect options"
  reportMissing ("value: " ++ value) (control.picker.deselectByValue value)

def deselectByIndex (control : Control) (index : Int) : Attempt Box Unit := do
  requireMultiple "deselect options"
  reportMissingIndex index (control.picker.deselectByIndex index)

def deselectByText (control : Control) (text : String) : Attempt Box Unit := do
  requireMultiple "deselect options"
  reportMissing ("visible text: " ++ text) (control.picker.deselectByText text)

end Control

end BrowserControl.Select
