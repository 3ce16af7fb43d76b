import BrowserControl.Locating.Locator
import BrowserControl.Locating.Page

/-!
# Searching a Page

A plain locator puts one question to the element it starts from.  A chain follows its members: looking
for one element, it goes from the element found by a member to the next member; looking for all, it collects
what the next member finds below every element found so far, and stops as soon as nothing is left.

A member after the first that finds no element is reported in terms of the whole chain, with what
happened as the cause; what the first member reports comes out as it is.
-/

namespace BrowserControl.Locator

mutual

def findElement : Locator → Element → Attempt Page Element
  | plain strategy value, element => element.findElement ⟨strategy, value⟩
  | chain [], _ => throw (.of .noSuchElement "No locators were specified in this chain")
  | chain (first :: rest), element => do
    let found ← findElement first element
    followElement (chain (first :: rest)) rest found

/-- Follow the later members of a chain one element at a time. -/
def followElement (whole : Locator) : List Locator → Element → Attempt Page Element
  | [], element => pure element
  | member :: rest, element => do
    let found ← Attempt.recover (findElement member element) .noSuchElement fun failure ↦
      throw (failure.reportedAs .noSuchElement ("Cannot locate an element using " ++ whole.describe))
    followElement whole rest found

end

mutual

def findElements : Locator → Element → Attempt Page (List Element)
  | plain strategy value, element => element.findElements ⟨strategy, value⟩
  | chain [], _ => pure []
  | chain (first :: rest), element => do
    let found ← findElements first element
    followElements rest found

/-- Follow the later members of a chain from all elements found so far. -/
def followElements : List Locator → List Element → Attempt Page (List Element)
  | [], elements => pure elements
  | _, [] => pure []
  | member :: rest, elements => do
    let found ← elements.mapM fun element ↦ findElements member element
    followElements rest found.flatten

end

end BrowserControl.Locator
